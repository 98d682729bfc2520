import EngineBridge.Json.Lexical
import Mathlib.Tactic.Common

/-!
# The grammar of JSON

What a text says is a tree, whose leaves are numbers and strings as they are spelled.  Which
texts say it is a relation, made of the rules of the grammar and of nothing that a reader does:
white space may stand around every value, key and separator, and counts for nothing.
-/

set_option autoImplicit false

namespace EngineBridge.Json

/-- A value as it is spelled, without the white space in it. -/
inductive Tree where
  | null
  | bool (value : Bool)
  | number (literal : List Char)
  /-- The characters between the quotes. -/
  | string (body : List Char)
  | array (elements : List Tree)
  /-- The keys are spelled as strings are. -/
  | object (members : List (List Char × Tree))

/-- The members of an object, each with the characters between the quotes of its key. -/
abbrev Members := List (List Char × Tree)

/-! ## Literals -/

/-- White space. -/
def Blank (cs : List Char) : Prop :=
  ∀ c ∈ cs, isSpace c = true

/-- No characters are white space. -/
theorem blank_nil : Blank [] := by
  rintro c ⟨⟩

/-- White space may follow white space. -/
theorem Blank.append {sp sp' : List Char} (h : Blank sp) (h' : Blank sp') : Blank (sp ++ sp') :=
  fun c mem => (List.mem_append.mp mem).elim (h c) (h' c)

/-- The characters between the quotes of a string. -/
inductive StringBody : List Char → Prop
  | nil : StringBody []
  | plain {c : Char} {cs : List Char} (printable : 0x20 ≤ c.toNat) (quote : c ≠ '"')
      (backslash : c ≠ '\\') (rest : StringBody cs) : StringBody (c :: cs)
  | escape {c : Char} {cs : List Char}
      (letter : c ∈ ['"', '\\', '/', 'b', 'f', 'n', 'r', 't']) (rest : StringBody cs) :
      StringBody ('\\' :: c :: cs)
  /-- A code unit, which may be one half of a surrogate pair. -/
  | unit {digits cs : List Char} (four : digits.length = 4)
      (hex : ∀ d ∈ digits, (Text.hexValue? d).isSome) (rest : StringBody cs) :
      StringBody ('\\' :: 'u' :: (digits ++ cs))

/-- Characters that need no escape are the body of a string. -/
theorem stringBody_of_plain {cs : List Char}
    (h : ∀ c ∈ cs, 0x20 ≤ c.toNat ∧ c ≠ '"' ∧ c ≠ '\\') : StringBody cs := by
  induction cs with
  | nil => exact .nil
  | cons c cs ih =>
    obtain ⟨printable, quote, backslash⟩ := h c List.mem_cons_self
    exact .plain printable quote backslash (ih fun d mem => h d (List.mem_cons_of_mem c mem))

/-- At least one digit. -/
def Digits (ds : List Char) : Prop :=
  ds ≠ [] ∧ ∀ d ∈ ds, d.isDigit = true

/-- The whole part of a number. -/
inductive Whole : List Char → Prop
  | zero : Whole ['0']
  | digits {d : Char} {ds : List Char} (nonzero : d ≠ '0') (digits : Digits (d :: ds)) :
      Whole (d :: ds)

/-- The fraction of a number, with its point. -/
inductive Fraction : List Char → Prop
  | none : Fraction []
  | digits {ds : List Char} (digits : Digits ds) : Fraction ('.' :: ds)

/-- The exponent of a number. -/
inductive Exponent : List Char → Prop
  | none : Exponent []
  | digits {e : Char} {sign ds : List Char} (letter : e = 'e' ∨ e = 'E')
      (signed : sign ∈ [[], ['+'], ['-']]) (digits : Digits ds) : Exponent (e :: (sign ++ ds))

/-- The sign of a number. -/
def IsSign (sign : List Char) : Prop :=
  sign = [] ∨ sign = ['-']

/-- A number. -/
inductive NumberLiteral : List Char → Prop
  | of {sign whole fraction exponent : List Char} (isSign : IsSign sign) (isWhole : Whole whole)
      (isFraction : Fraction fraction) (isExponent : Exponent exponent) :
      NumberLiteral (sign ++ (whole ++ (fraction ++ exponent)))

/-! ## Values -/

/-- What stands before an element or a member: nothing before the first one, and a comma
before the others. -/
inductive Separator : Bool → List Char → Prop
  | first : Separator true []
  | comma {sp : List Char} (blank : Blank sp) : Separator false (sp ++ [','])

/-- A part of a text: a value, or what is left of an array or an object, from before its first
element or member or from after one of them up to its closing bracket. -/
inductive Part where
  | value (t : Tree)
  | elements (isFirst : Bool) (ts : List Tree)
  | members (isFirst : Bool) (ms : Members)

/-- How parts of a text are written. -/
inductive Written : Part → List Char → Prop
  | null : Written (.value .null) ['n', 'u', 'l', 'l']
  | trueLiteral : Written (.value (.bool true)) ['t', 'r', 'u', 'e']
  | falseLiteral : Written (.value (.bool false)) ['f', 'a', 'l', 's', 'e']
  | number {literal : List Char} (number : NumberLiteral literal) :
      Written (.value (.number literal)) literal
  | string {body : List Char} (string : StringBody body) :
      Written (.value (.string body)) ('"' :: (body ++ ['"']))
  | array {ts : List Tree} {cs : List Char} (elements : Written (.elements true ts) cs) :
      Written (.value (.array ts)) ('[' :: cs)
  | object {ms : Members} {cs : List Char} (members : Written (.members true ms) cs) :
      Written (.value (.object ms)) ('{' :: cs)
  | noElement {isFirst : Bool} {sp : List Char} (blank : Blank sp) :
      Written (.elements isFirst []) (sp ++ [']'])
  | element {isFirst : Bool} {sep sp cs more : List Char} {t : Tree} {ts : List Tree}
      (separator : Separator isFirst sep) (blank : Blank sp) (value : Written (.value t) cs)
      (rest : Written (.elements false ts) more) :
      Written (.elements isFirst (t :: ts)) (sep ++ (sp ++ (cs ++ more)))
  | noMember {isFirst : Bool} {sp : List Char} (blank : Blank sp) :
      Written (.members isFirst []) (sp ++ ['}'])
  | member {isFirst : Bool} {sep sp key before after cs more : List Char} {t : Tree} {ms : Members}
      (separator : Separator isFirst sep) (blank : Blank sp) (isKey : StringBody key)
      (blankBefore : Blank before) (blankAfter : Blank after) (value : Written (.value t) cs)
      (rest : Written (.members false ms) more) :
      Written (.members isFirst ((key, t) :: ms))
        (sep ++ (sp ++ '"' :: (key ++ '"' :: (before ++ ':' :: (after ++ (cs ++ more))))))

/-- A text says what a tree says, with white space around it. -/
def Tree.Writes (t : Tree) (text : String) : Prop :=
  ∃ before cs after, Blank before ∧ Written (.value t) cs ∧ Blank after ∧
    text.toList = before ++ (cs ++ after)

/-! ## Where values begin and end -/

/-- What is not white space is not skipped. -/
theorem skipSpace_cons {c : Char} (h : isSpace c = false) (cs : List Char) :
    skipSpace (c :: cs) = c :: cs := by
  simp [skipSpace, h]

/-- The first character of a number is no white space. -/
theorem isSpace_of_beginsNumber {c : Char} (h : beginsNumber c = true) : isSpace c = false := by
  simp only [beginsNumber, Bool.or_eq_true, decide_eq_true_eq] at h
  rcases h with rfl | hdigit
  · rfl
  · have hspace : ∀ d : Char, d.isDigit = false → c ≠ d := by
      rintro d hd rfl
      rw [hd] at hdigit
      cases hdigit
    simp [isSpace, hspace ' ' rfl, hspace '\n' rfl, hspace '\t' rfl, hspace '\r' rfl]

/-- The characters that a value may begin with. -/
def Tree.Begins : Tree → Char → Prop
  | .null, c => c = 'n'
  | .bool true, c => c = 't'
  | .bool false, c => c = 'f'
  | .number _, c => beginsNumber c = true
  | .string _, c => c = '"'
  | .array _, c => c = '['
  | .object _, c => c = '{'

/-- A number begins with a minus sign or a digit. -/
theorem NumberLiteral.begins {literal : List Char} (h : NumberLiteral literal) :
    ∃ c cs, literal = c :: cs ∧ beginsNumber c = true := by
  cases h with
  | of isSign isWhole _ _ =>
    rcases isSign with rfl | rfl
    · cases isWhole with
      | zero => exact ⟨_, _, rfl, by decide⟩
      | digits _ digits =>
        exact ⟨_, _, rfl, by simp [beginsNumber, digits.2 _ List.mem_cons_self]⟩
    · exact ⟨_, _, rfl, by decide⟩

/-- A value begins with a character that tells its kind. -/
theorem Written.begins {t : Tree} {cs : List Char} (h : Written (.value t) cs) :
    ∃ c more, cs = c :: more ∧ t.Begins c := by
  cases h with
  | number number => exact number.begins
  | _ => exact ⟨_, _, rfl, rfl⟩

/-- No value begins with white space. -/
theorem Tree.Begins.isSpace {t : Tree} {c : Char} (h : t.Begins c) : isSpace c = false := by
  rcases t with _ | (_ | _) | _ | _ | _ | _
  case number => exact isSpace_of_beginsNumber h
  all_goals
    obtain rfl : c = _ := h
    rfl

/-- No value begins as an array or an object goes on or ends. -/
theorem Tree.Begins.not_mem {t : Tree} {c : Char} (h : t.Begins c) : c ∉ [',', ']', '}'] := by
  intro mem
  rcases t with _ | (_ | _) | _ | _ | _ | _
  case number =>
    have begins : beginsNumber c = true := h
    have none : ∀ d ∈ [',', ']', '}'], beginsNumber d = false := by simp [beginsNumber]
    rw [none c mem] at begins
    cases begins
  all_goals
    obtain rfl : c = _ := h
    revert mem
    decide

/-! The first character of a value tells of what kind it is. -/

/-- Only the null literal begins with this letter. -/
theorem Tree.Begins.null {t : Tree} (h : t.Begins 'n') : t = .null := by
  rcases t with _ | (_ | _) | _ | _ | _ | _
  case null => rfl
  all_goals exact absurd h (by simp [Tree.Begins, beginsNumber])

/-- Only numbers begin with a minus sign or a digit. -/
theorem Tree.Begins.number {t : Tree} {c : Char} (h : t.Begins c) (begins : beginsNumber c = true) :
    ∃ literal, t = .number literal := by
  rcases t with _ | (_ | _) | _ | _ | _ | _
  case number literal => exact ⟨literal, rfl⟩
  all_goals
    obtain rfl : c = _ := h
    cases begins

/-- Only strings begin with a quote. -/
theorem Tree.Begins.string {t : Tree} (h : t.Begins '"') : ∃ body, t = .string body := by
  rcases t with _ | (_ | _) | _ | _ | _ | _
  case string body => exact ⟨body, rfl⟩
  all_goals exact absurd h (by simp [Tree.Begins, beginsNumber])

/-- Only arrays begin with a bracket. -/
theorem Tree.Begins.array {t : Tree} (h : t.Begins '[') : ∃ ts, t = .array ts := by
  rcases t with _ | (_ | _) | _ | _ | _ | _
  case array ts => exact ⟨ts, rfl⟩
  all_goals exact absurd h (by simp [Tree.Begins, beginsNumber])

/-- Only objects begin with a brace. -/
theorem Tree.Begins.object {t : Tree} (h : t.Begins '{') : ∃ ms, t = .object ms := by
  rcases t with _ | (_ | _) | _ | _ | _ | _
  case object ms => exact ⟨ms, rfl⟩
  all_goals exact absurd h (by simp [Tree.Begins, beginsNumber])

/-- White space is skipped before anything else. -/
theorem skipSpace_append {sp : List Char} (blank : Blank sp) (cs : List Char) :
    skipSpace (sp ++ cs) = skipSpace cs :=
  List.dropWhile_append_of_pos blank

/-- White space does not reach into a value. -/
theorem Written.skipSpace_eq {t : Tree} {sp cs : List Char} (blank : Blank sp)
    (h : Written (.value t) cs) (rest : List Char) :
    skipSpace (sp ++ (cs ++ rest)) = cs ++ rest := by
  obtain ⟨c, more, rfl, begins⟩ := h.begins
  rw [skipSpace_append blank]
  exact skipSpace_cons begins.isSpace _

/-- A number that ends here does not go on with this input. -/
def EndsNumber (rest : List Char) : Prop :=
  ∀ c ∈ rest.head?, c.isDigit = false ∧ c ≠ '.' ∧ c ≠ 'e' ∧ c ≠ 'E'

/-- A number ends before white space, before a comma and before a closing bracket. -/
theorem endsNumber_append {sp : List Char} (blank : Blank sp) (cs : List Char)
    (h : ∀ c ∈ cs.head?, c ∈ [',', ']', '}']) : EndsNumber (sp ++ cs) := by
  intro c hc
  cases sp with
  | nil =>
    have ends : ∀ d ∈ [',', ']', '}'], d.isDigit = false ∧ d ≠ '.' ∧ d ≠ 'e' ∧ d ≠ 'E' := by
      simp
    exact ends c (h c hc)
  | cons d sp =>
    obtain rfl : d = c := by simpa using hc
    have space : isSpace d = true := blank d List.mem_cons_self
    simp only [isSpace, Bool.or_eq_true, decide_eq_true_eq] at space
    rcases space with ((rfl | rfl) | rfl) | rfl <;> decide

/-- Within an array no number runs on beyond its element. -/
theorem Written.elements_endsNumber {ts : List Tree} {cs : List Char}
    (h : Written (.elements false ts) cs) (rest : List Char) : EndsNumber (cs ++ rest) := by
  cases h with
  | noElement blank => simpa using endsNumber_append blank (']' :: rest) (by simp)
  | element separator blank _ _ =>
    cases separator with
    | comma sp => simpa using endsNumber_append sp (',' :: _) (by simp)

/-- Within an object no number runs on beyond its member. -/
theorem Written.members_endsNumber {ms : Members} {cs : List Char}
    (h : Written (.members false ms) cs) (rest : List Char) : EndsNumber (cs ++ rest) := by
  cases h with
  | noMember blank => simpa using endsNumber_append blank ('}' :: rest) (by simp)
  | member separator _ _ _ _ _ _ =>
    cases separator with
    | comma sp => simpa using endsNumber_append sp (',' :: _) (by simp)

/-! ## Every tree has a text -/

mutual

/-- The literals in a tree are spelled by the grammar. -/
def Tree.WellSpelled : Tree → Prop
  | .null => True
  | .bool _ => True
  | .number literal => NumberLiteral literal
  | .string body => StringBody body
  | .array ts => AllWellSpelled ts
  | .object ms => MembersWellSpelled ms

/-- The literals in all elements of an array are spelled by the grammar. -/
def AllWellSpelled : List Tree → Prop
  | [] => True
  | t :: ts => t.WellSpelled ∧ AllWellSpelled ts

/-- The keys of an object, and the literals in its values, are spelled by the grammar. -/
def MembersWellSpelled : Members → Prop
  | [] => True
  | (key, t) :: ms => StringBody key ∧ t.WellSpelled ∧ MembersWellSpelled ms

end

/-- The comma before an element or a member that is not the first one. -/
def commaUnless (isFirst : Bool) : List Char :=
  if isFirst then [] else [',']

mutual

/-- The text of a tree without white space. -/
def Tree.compact : Tree → List Char
  | .null => ['n', 'u', 'l', 'l']
  | .bool true => ['t', 'r', 'u', 'e']
  | .bool false => ['f', 'a', 'l', 's', 'e']
  | .number literal => literal
  | .string body => '"' :: (body ++ ['"'])
  | .array ts => '[' :: compactElements true ts
  | .object ms => '{' :: compactMembers true ms

/-- The text of the elements of an array, with the closing bracket. -/
def compactElements (isFirst : Bool) : List Tree → List Char
  | [] => [']']
  | t :: ts => commaUnless isFirst ++ (t.compact ++ compactElements false ts)

/-- The text of the members of an object, with the closing bracket. -/
def compactMembers (isFirst : Bool) : Members → List Char
  | [] => ['}']
  | (key, t) :: ms =>
    commaUnless isFirst ++ '"' :: (key ++ '"' :: ':' :: (t.compact ++ compactMembers false ms))

end

/-- A comma where one is needed is a separator. -/
theorem separator_commaUnless (isFirst : Bool) : Separator isFirst (commaUnless isFirst) :=
  match isFirst with
  | true => .first
  | false => .comma blank_nil

mutual

/-- A tree that is well spelled is written without white space. -/
theorem Tree.written_compact : (t : Tree) → t.WellSpelled → Written (.value t) t.compact
  | .null, _ => .null
  | .bool true, _ => .trueLiteral
  | .bool false, _ => .falseLiteral
  | .number _, h => .number h
  | .string _, h => .string h
  | .array ts, h => .array (written_compactElements true ts h)
  | .object ms, h => .object (written_compactMembers true ms h)

/-- Elements that are well spelled are written without white space. -/
theorem written_compactElements (isFirst : Bool) :
    (ts : List Tree) → AllWellSpelled ts →
      Written (.elements isFirst ts) (compactElements isFirst ts)
  | [], _ => .noElement blank_nil
  | t :: ts, h => .element (separator_commaUnless isFirst) blank_nil (t.written_compact h.1)
      (written_compactElements false ts h.2)

/-- Members that are well spelled are written without white space. -/
theorem written_compactMembers (isFirst : Bool) :
    (ms : Members) → MembersWellSpelled ms →
      Written (.members isFirst ms) (compactMembers isFirst ms)
  | [], _ => .noMember blank_nil
  | (_, t) :: ms, h => .member (separator_commaUnless isFirst) blank_nil h.1 blank_nil blank_nil
      (t.written_compact h.2.1) (written_compactMembers false ms h.2.2)

end

/-- The literals in a part of a text are spelled by the grammar. -/
def Part.WellSpelled : Part → Prop
  | .value t => t.WellSpelled
  | .elements _ ts => AllWellSpelled ts
  | .members _ ms => MembersWellSpelled ms

/-- What is written is well spelled. -/
theorem Written.wellSpelled {part : Part} {cs : List Char} (h : Written part cs) :
    part.WellSpelled := by
  induction h with
  | number number => exact number
  | string string => exact string
  | array _ ih => exact ih
  | object _ ih => exact ih
  | element _ _ _ _ here later => exact ⟨here, later⟩
  | member _ _ isKey _ _ _ _ here later => exact ⟨isKey, here, later⟩
  | _ => trivial

/-- A text that is compact but for the white space around it. -/
theorem Tree.writes_compact {t : Tree} (h : t.WellSpelled) {before after : List Char}
    (blankBefore : Blank before) (blankAfter : Blank after) {text : String}
    (chars : text.toList = before ++ (t.compact ++ after)) : t.Writes text :=
  ⟨before, t.compact, after, blankBefore, t.written_compact h, blankAfter, chars⟩

/-- A tree has a text if its literals are spelled by the grammar, and only then. -/
theorem Tree.exists_writes_iff {t : Tree} : (∃ text, t.Writes text) ↔ t.WellSpelled := by
  constructor
  · rintro ⟨text, before, cs, after, -, written, -⟩
    exact written.wellSpelled
  · exact fun h => ⟨_, Tree.writes_compact h blank_nil blank_nil String.toList_ofList⟩

end EngineBridge.Json
