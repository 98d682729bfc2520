import EngineBridge.Proofs.Json.Literals

/-!
# Values that are passed over

The machine that passes over a value goes through it step by step, with the open arrays and
objects on a stack, and is out of it again when the stack is as it was.  Whether it gets there
depends on the value and on the number of arrays and objects around it only, neither on what
comes after the value nor on white space; where only the form counts, it always does.
-/

set_option autoImplicit false

namespace EngineBridge.Json

/-! ## Strictness -/

/-- Whether a string passes. -/
def Strictness.takesString (strictness : Strictness) (body : List Char) : Bool :=
  (strictness.string (body ++ ['"'])).toOption.isSome

/-- Whether a number passes. -/
def Strictness.takesNumber (strictness : Strictness) (literal : List Char) : Bool :=
  (strictness.number literal).toOption.isSome

/-- Whether a literal passes does not depend on what comes after it. -/
structure Strictness.Settled (strictness : Strictness) : Prop where
  string {body : List Char} (h : StringBody body) (rest : List Char) :
    (strictness.string (body ++ '"' :: rest)).toOption =
      if strictness.takesString body then some rest else none
  number {literal rest : List Char} (h : NumberLiteral literal) (ends : EndsNumber rest) :
    (strictness.number (literal ++ rest)).toOption =
      if strictness.takesNumber literal then some rest else none

/-- A number may end with the input. -/
theorem endsNumber_nil : EndsNumber [] := by
  rintro c ⟨⟩

/-- For its form, every string of the grammar passes. -/
theorem formOnly_takesString {body : List Char} (h : StringBody body) :
    formOnly.takesString body = true := by
  simp [Strictness.takesString, formOnly, skipString_append h]

/-- For its form, every number of the grammar passes. -/
theorem formOnly_takesNumber {literal : List Char} (h : NumberLiteral literal) :
    formOnly.takesNumber literal = true := by
  have skipped := skipNumber_append h endsNumber_nil
  rw [List.append_nil] at skipped
  simp [Strictness.takesNumber, formOnly, skipped]

/-- Skipping for the form only is settled by the literal. -/
theorem settled_formOnly : formOnly.Settled where
  string h rest := by
    rw [formOnly_takesString h, if_pos rfl]
    exact congrArg Except.toOption (skipString_append h rest)
  number h ends := by
    rw [formOnly_takesNumber h, if_pos rfl]
    exact congrArg Except.toOption (skipNumber_append h ends)

/-- Reading in full is settled by the literal. -/
theorem settled_inFull (maxDepth : Nat) : (inFull maxDepth).Settled where
  string {body} h rest := by
    simp only [Strictness.takesString, inFull, toOption_map, readString_append h]
    cases spelled body <;> rfl
  number {literal rest} h ends := by
    have alone := readNumber_append h endsNumber_nil
    rw [List.append_nil] at alone
    simp only [Strictness.takesNumber, inFull, toOption_map, readNumber_append h ends, alone]
    cases numeral literal <;> rfl

/-! ## Trees that pass -/

mutual

/-- Whether a value passes inside so many arrays and objects. -/
def Tree.passes (strictness : Strictness) (depth : Nat) : Tree → Bool
  | .null => true
  | .bool _ => true
  | .number literal => strictness.takesNumber literal
  | .string body => strictness.takesString body
  | .array ts => strictness.allows depth && passesAll strictness (depth + 1) ts
  | .object ms => strictness.allows depth && passesMembers strictness (depth + 1) ms

/-- Whether all elements of an array pass. -/
def passesAll (strictness : Strictness) (depth : Nat) : List Tree → Bool
  | [] => true
  | t :: ts => t.passes strictness depth && passesAll strictness depth ts

/-- Whether all members of an object pass, with their keys. -/
def passesMembers (strictness : Strictness) (depth : Nat) : Members → Bool
  | [] => true
  | (key, t) :: ms =>
    strictness.takesString key && t.passes strictness depth && passesMembers strictness depth ms

end

/-- Whether a part of a text passes, with so many arrays and objects open before it. -/
def Part.passes (strictness : Strictness) (depth : Nat) : Part → Bool
  | .value t => t.passes strictness depth
  | .elements _ ts => passesAll strictness depth ts
  | .members _ ms => passesMembers strictness depth ms

/-- Where only the form counts, everything passes that is written by the grammar. -/
theorem Written.passes_formOnly {part : Part} {cs : List Char} (h : Written part cs) (depth : Nat) :
    part.passes formOnly depth = true := by
  induction h generalizing depth with
  | number number => exact formOnly_takesNumber number
  | string string => exact formOnly_takesString string
  | array _ ih => exact ih (depth + 1)
  | object _ ih => exact ih (depth + 1)
  | element _ _ _ _ ih more =>
    exact Bool.and_eq_true_iff.mpr ⟨ih depth, more depth⟩
  | member _ _ isKey _ _ _ _ ih more =>
    simp only [Part.passes, passesMembers, Bool.and_eq_true]
    exact ⟨⟨formOnly_takesString isKey, ih depth⟩, more depth⟩
  | _ => rfl

/-! ## The machine -/

/-- What the machine expects before a part of a text. -/
def Part.expected : Part → Expected
  | .value _ => .value
  | .elements isFirst _ | .members isFirst _ => if isFirst then .first else .separator

/-- What the part of a text closes. -/
def Part.frames : Part → List Frame
  | .value _ => []
  | .elements _ _ => [.array]
  | .members _ _ => [.object]

section

variable {strictness : Strictness} {steps : Nat} {frames : List Frame}

/-- A machine that is not done takes a step and goes on from there. -/
theorem skipFrom_step {expected : Expected} (undone : expected ≠ .separator ∨ frames ≠ [])
    (cs : List Char) :
    (skipFrom strictness (steps + 1) expected frames cs).toOption =
      (skipStep strictness expected frames cs).toOption.bind fun (expected, frames, rest) =>
        (skipFrom strictness steps expected frames rest).toOption := by
  rw [skipFrom, if_neg (by tauto)]
  cases skipStep strictness expected frames cs <;> rfl

/-- A machine that is not done goes on from where its step leads. -/
theorem skipFrom_of_step {expected next : Expected} {frames' : List Frame} {cs rest : List Char}
    (step : skipStep strictness expected frames cs = .ok (next, frames', rest))
    (undone : expected ≠ .separator ∨ frames ≠ []) :
    skipFrom strictness (steps + 1) expected frames cs =
      skipFrom strictness steps next frames' rest := by
  rw [skipFrom, if_neg (by tauto), step]

/-- White space makes no difference to a step. -/
theorem skipStep_blank {sp : List Char} (blank : Blank sp) (expected : Expected) (cs : List Char) :
    skipStep strictness expected frames (sp ++ cs) = skipStep strictness expected frames cs := by
  rw [skipStep, skipStep, skipSpace_append blank]

/-- White space before a value is passed over with it. -/
theorem skipFrom_blank {sp : List Char} (blank : Blank sp) (cs : List Char) :
    skipFrom strictness steps .value frames (sp ++ cs) =
      skipFrom strictness steps .value frames cs := by
  cases steps with
  | zero => rfl
  | succ steps => simp only [skipFrom, skipStep_blank blank, reduceCtorEq, false_and, if_false]

/-- The first step into a value goes by its first character. -/
theorem skipStep_value {c : Char} (space : isSpace c = false) (rest : List Char) :
    skipStep strictness .value frames (c :: rest) =
      if c = '[' ∨ c = '{' then
        if strictness.allows frames.length then
          .ok (.first, (if c = '[' then .array else .object) :: frames, rest)
        else .error .malformed
      else if c = '"' then (strictness.string rest).map fun rest => (.separator, frames, rest)
      else if beginsNumber c then
        (strictness.number (c :: rest)).map fun rest => (.separator, frames, rest)
      else match literal? c rest with
        | some r => r.map fun rest => (.separator, frames, rest)
        | none => .error .malformed := by
  rewrite [skipStep, skipSpace_cons space]
  rfl

/-- Before a number, the machine takes all of the number. -/
theorem skipStep_number {c : Char} (begins : beginsNumber c = true) (cs : List Char) :
    skipStep strictness .value frames (c :: cs) =
      (strictness.number (c :: cs)).map fun rest => (.separator, frames, rest) := by
  have other : ∀ d ∈ ['[', '{', '"'], c ≠ d := by
    rintro d mem rfl
    have none : ∀ d ∈ ['[', '{', '"'], beginsNumber d = false := by simp [beginsNumber]
    rw [none c mem] at begins
    cases begins
  rw [skipStep_value (isSpace_of_beginsNumber begins),
    if_neg (not_or.mpr ⟨other '[' (by decide), other '{' (by decide)⟩),
    if_neg (other '"' (by decide)), if_pos begins]

/-- An array or an object is closed where its next element or member might be. -/
theorem skipStep_closer {sp : List Char} (blank : Blank sp) (isFirst : Bool) {frame : Frame}
    {c : Char} (closer : frame.closer = c) (rest : List Char) :
    skipStep strictness (if isFirst then .first else .separator) (frame :: frames)
      (sp ++ c :: rest) = .ok (.separator, frames, rest) := by
  subst closer
  have space : isSpace frame.closer = false := by cases frame <;> rfl
  rw [skipStep, skipSpace_append blank, skipSpace_cons space]
  cases isFirst <;> simp

/-- After a separator comes a value in an array, and a key in an object. -/
theorem skipStep_separator {isFirst : Bool} {sep : List Char} (separator : Separator isFirst sep)
    {frame : Frame} {sp : List Char} (blank : Blank sp) {c : Char} (space : isSpace c = false)
    (more : c ≠ frame.closer) (cs : List Char) :
    ∃ sp', Blank sp' ∧
      skipStep strictness (if isFirst then .first else .separator) (frame :: frames)
        (sep ++ (sp ++ c :: cs)) =
        .ok (if frame = .array then .value else .key, frame :: frames, sp' ++ c :: cs) := by
  cases separator with
  | first =>
    refine ⟨[], blank_nil, ?_⟩
    rw [List.nil_append, skipStep, skipSpace_append blank, skipSpace_cons space]
    simp [more]
  | @comma sp' blank' =>
    refine ⟨sp, blank, ?_⟩
    have comma : ',' ≠ frame.closer := by cases frame <;> decide
    rw [List.append_assoc, skipStep, skipSpace_append blank', List.singleton_append,
      skipSpace_cons rfl]
    simp [comma]

/-- A colon is found after white space. -/
theorem readColon_append {before : List Char} (blank : Blank before) (cs : List Char) :
    readColon (before ++ ':' :: cs) = .ok cs := by
  rw [readColon, skipSpace_append blank, skipSpace_cons rfl]
  rfl

/-- Between a key and its value there is nothing but a colon and white space. -/
theorem skipStep_key (settled : strictness.Settled) {key sp before after : List Char}
    (isKey : StringBody key) (blank : Blank sp) (blankBefore : Blank before) (cs : List Char) :
    (skipStep strictness .key frames
        (sp ++ '"' :: (key ++ '"' :: (before ++ ':' :: (after ++ cs))))).toOption =
      if strictness.takesString key then some (.value, frames, after ++ cs) else none := by
  have colon := readColon_append blankBefore (after ++ cs)
  rw [skipStep, skipSpace_append blank, skipSpace_cons rfl]
  have string := settled.string isKey (before ++ ':' :: (after ++ cs))
  simp only [if_true]
  cases skipped : strictness.string (key ++ '"' :: (before ++ ':' :: (after ++ cs))) <;>
    cases takes : strictness.takesString key <;>
    simp_all [Except.map, Except.toOption]

/-- The machine takes so many steps through a part of a text, and is where it was before it if
the part passes; else it stops. -/
def Goes (strictness : Strictness) (part : Part) (cs : List Char) (k : Nat) : Prop :=
  ∀ steps frames rest, EndsNumber rest →
    (skipFrom strictness (steps + k) part.expected (part.frames ++ frames) (cs ++ rest)).toOption =
      if part.passes strictness (frames.length + part.frames.length) then
        (skipFrom strictness steps .separator frames rest).toOption
      else none

/-- A number takes one step. -/
theorem goes_number (settled : strictness.Settled) {literal : List Char}
    (number : NumberLiteral literal) : Goes strictness (.value (.number literal)) literal 1 := by
  intro steps frames rest ends
  have numbered := settled.number number ends
  obtain ⟨c, cs, rfl, begins⟩ := number.begins
  show (skipFrom strictness (steps + 1) .value frames _).toOption =
    if strictness.takesNumber (c :: cs) then _ else none
  rw [skipFrom_step (.inl (by decide)), List.cons_append, skipStep_number begins, toOption_map,
    ← List.cons_append, numbered]
  split <;> rfl

/-- A string takes one step. -/
theorem goes_string (settled : strictness.Settled) {body : List Char} (string : StringBody body) :
    Goes strictness (.value (.string body)) ('"' :: (body ++ ['"'])) 1 := by
  intro steps frames rest ends
  show (skipFrom strictness (steps + 1) .value frames _).toOption =
    if strictness.takesString body then _ else none
  rw [skipFrom_step (.inl (by decide)), List.cons_append, List.append_assoc, skipStep_value rfl]
  simp only [Char.reduceEq, or_self, if_false, if_true, List.singleton_append, toOption_map,
    settled.string string rest]
  split <;> rfl

/-- An array takes one step more than its elements. -/
theorem goes_array {ts : List Tree} {cs : List Char} {k : Nat}
    (h : Goes strictness (.elements true ts) cs k) :
    Goes strictness (.value (.array ts)) ('[' :: cs) (k + 1) := by
  intro steps frames rest ends
  show (skipFrom strictness (steps + k + 1) .value frames _).toOption =
    if strictness.allows frames.length && passesAll strictness (frames.length + 1) ts then _
    else none
  rw [skipFrom_step (.inl (by decide)), List.cons_append, skipStep_value rfl]
  have inside := h steps frames rest ends
  cases strictness.allows frames.length with
  | false => rfl
  | true => exact inside

/-- An object takes one step more than its members. -/
theorem goes_object {ms : Members} {cs : List Char} {k : Nat}
    (h : Goes strictness (.members true ms) cs k) :
    Goes strictness (.value (.object ms)) ('{' :: cs) (k + 1) := by
  intro steps frames rest ends
  show (skipFrom strictness (steps + k + 1) .value frames _).toOption =
    if strictness.allows frames.length && passesMembers strictness (frames.length + 1) ms then _
    else none
  rw [skipFrom_step (.inl (by decide)), List.cons_append, skipStep_value rfl]
  have inside := h steps frames rest ends
  cases strictness.allows frames.length with
  | false => rfl
  | true => exact inside

/-- An array or an object ends with its closing bracket. -/
theorem goes_closer {part : Part} {isFirst : Bool} {frame : Frame} {sp : List Char} {c : Char}
    (blank : Blank sp) (closer : frame.closer = c)
    (expected : part.expected = if isFirst then .first else .separator)
    (opened : part.frames = [frame]) (passes : ∀ depth, part.passes strictness depth = true) :
    Goes strictness part (sp ++ [c]) 1 := by
  intro steps frames rest ends
  rw [expected, opened, passes, if_pos rfl, List.append_assoc]
  exact congrArg Except.toOption (skipFrom_of_step (skipStep_closer blank isFirst closer rest)
    (.inr (List.cons_ne_nil _ _)))

/-- An element takes one step for what separates it and the steps of its value. -/
theorem goes_element {isFirst : Bool} {sep sp cs more : List Char} {t : Tree} {ts : List Tree}
    {k m : Nat} (separator : Separator isFirst sep) (blank : Blank sp)
    (value : Written (.value t) cs) (rest : Written (.elements false ts) more)
    (here : Goes strictness (.value t) cs k) (later : Goes strictness (.elements false ts) more m) :
    Goes strictness (.elements isFirst (t :: ts)) (sep ++ (sp ++ (cs ++ more))) (m + k + 1) := by
  intro steps frames tail ends
  have here := here (steps + m) (.array :: frames) (more ++ tail) (rest.elements_endsNumber tail)
  have later := later steps frames tail ends
  simp only [← Nat.add_assoc, List.append_assoc]
  show (skipFrom strictness (steps + m + k + 1) (if isFirst then .first else .separator)
      (.array :: frames) _).toOption =
    if t.passes strictness (frames.length + 1) && passesAll strictness (frames.length + 1) ts
    then _ else none
  obtain ⟨sp', blank', step⟩ : ∃ sp', Blank sp' ∧
      skipStep strictness (if isFirst then .first else .separator) (.array :: frames)
        (sep ++ (sp ++ (cs ++ (more ++ tail)))) =
        .ok (.value, .array :: frames, sp' ++ (cs ++ (more ++ tail))) := by
    obtain ⟨c, cs, rfl, begins⟩ := value.begins
    exact skipStep_separator separator blank begins.isSpace
      (fun closer => begins.not_mem (closer ▸ by decide)) _
  rw [skipFrom_of_step step (.inr (List.cons_ne_nil _ _)), skipFrom_blank blank']
  refine here.trans ?_
  simp only [Bool.and_eq_true, ite_and]
  exact if_congr Iff.rfl later rfl

/-- A member takes one step for its key and what separates it, and the steps of its value. -/
theorem goes_member (settled : strictness.Settled) {isFirst : Bool}
    {sep sp key before after cs more : List Char} {t : Tree} {ms : Members} {k m : Nat}
    (separator : Separator isFirst sep) (blank : Blank sp) (isKey : StringBody key)
    (blankBefore : Blank before) (blankAfter : Blank after)
    (rest : Written (.members false ms) more) (here : Goes strictness (.value t) cs k)
    (later : Goes strictness (.members false ms) more m) :
    Goes strictness (.members isFirst ((key, t) :: ms))
      (sep ++ (sp ++ '"' :: (key ++ '"' :: (before ++ ':' :: (after ++ (cs ++ more))))))
      (m + k + 2) := by
  intro steps frames tail ends
  have here := here (steps + m) (.object :: frames) (more ++ tail) (rest.members_endsNumber tail)
  have later := later steps frames tail ends
  simp only [← Nat.add_assoc, List.append_assoc, List.cons_append]
  show (skipFrom strictness (steps + m + k + 1 + 1) (if isFirst then .first else .separator)
      (.object :: frames) _).toOption =
    if strictness.takesString key && t.passes strictness (frames.length + 1) &&
      passesMembers strictness (frames.length + 1) ms then _ else none
  obtain ⟨sp', blank', step⟩ : ∃ sp', Blank sp' ∧
      skipStep strictness (if isFirst then .first else .separator) (.object :: frames)
        (sep ++ (sp ++ '"' :: (key ++ '"' ::
          (before ++ ':' :: (after ++ (cs ++ (more ++ tail))))))) =
        .ok (.key, .object :: frames,
          sp' ++ '"' :: (key ++ '"' :: (before ++ ':' :: (after ++ (cs ++ (more ++ tail)))))) :=
    skipStep_separator separator blank rfl (by decide) _
  rw [skipFrom_of_step step (.inr (List.cons_ne_nil _ _)), skipFrom_step (.inl (by decide)),
    skipStep_key settled isKey blank' blankBefore]
  cases strictness.takesString key with
  | false => rfl
  | true =>
    simp only [if_true, Option.bind_some, Bool.true_and, skipFrom_blank blankAfter]
    refine here.trans ?_
    simp only [Bool.and_eq_true, ite_and]
    exact if_congr Iff.rfl later rfl

/-- How many steps a part of a text may take that take no character of their own. -/
def Part.slack : Part → Nat
  | .value _ => 0
  | .elements isFirst _ | .members isFirst _ => isFirst.toNat

/-- The machine goes through every part of a text that is written by the grammar, in not many more
steps than the part has characters. -/
theorem Written.goes (settled : strictness.Settled) {part : Part} {cs : List Char}
    (h : Written part cs) : ∃ k ≤ 2 * cs.length + part.slack, Goes strictness part cs k := by
  have separated : ∀ {isFirst sep}, Separator isFirst sep → 1 ≤ sep.length + isFirst.toNat := by
    rintro _ _ (_ | _) <;> simp
  induction h with
  | null | trueLiteral | falseLiteral =>
    refine ⟨1, by simp only [List.length_cons]; omega, fun steps frames rest ends => ?_⟩
    exact skipFrom_step (.inl (by decide)) _
  | @number literal number =>
    obtain ⟨c, cs, rfl, -⟩ := number.begins
    exact ⟨1, by simp only [List.length_cons]; omega, goes_number settled number⟩
  | string string =>
    exact ⟨1, by simp only [List.length_cons]; omega, goes_string settled string⟩
  | array _ ih =>
    obtain ⟨k, le, inside⟩ := ih
    refine ⟨k + 1, ?_, goes_array inside⟩
    simp only [Part.slack, Bool.toNat_true, List.length_cons] at le ⊢
    omega
  | object _ ih =>
    obtain ⟨k, le, inside⟩ := ih
    refine ⟨k + 1, ?_, goes_object inside⟩
    simp only [Part.slack, Bool.toNat_true, List.length_cons] at le ⊢
    omega
  | noElement blank =>
    exact ⟨1, by simp only [List.length_append, List.length_cons]; omega,
      goes_closer blank rfl rfl rfl fun _ => rfl⟩
  | noMember blank =>
    exact ⟨1, by simp only [List.length_append, List.length_cons]; omega,
      goes_closer blank rfl rfl rfl fun _ => rfl⟩
  | element separator blank value rest ih more =>
    obtain ⟨k, le, here⟩ := ih
    obtain ⟨m, le', later⟩ := more
    refine ⟨m + k + 1, ?_, goes_element separator blank value rest here later⟩
    have := separated separator
    simp only [Part.slack, Bool.toNat_false, List.length_append] at le le' ⊢
    omega
  | member separator blank isKey blankBefore blankAfter _ rest ih more =>
    obtain ⟨k, le, here⟩ := ih
    obtain ⟨m, le', later⟩ := more
    refine ⟨m + k + 2, ?_,
      goes_member settled separator blank isKey blankBefore blankAfter rest here later⟩
    simp only [Part.slack, Bool.toNat_false, List.length_append, List.length_cons] at le le' ⊢
    omega

/-- A value is passed over exactly if it passes, and what comes after it is left. -/
theorem skipValue_written (settled : strictness.Settled) {t : Tree} {sp cs rest : List Char}
    (blank : Blank sp) (h : Written (.value t) cs) (ends : EndsNumber rest) :
    (skipValue strictness (sp ++ (cs ++ rest))).toOption =
      if t.passes strictness 0 then some rest else none := by
  obtain ⟨k, le, goes⟩ := h.goes settled
  obtain ⟨steps, fuel⟩ : ∃ steps, 2 * (sp ++ (cs ++ rest)).length + 2 = steps + 1 + k := by
    refine ⟨2 * (sp ++ (cs ++ rest)).length + 1 - k, ?_⟩
    simp only [Part.slack, List.length_append] at le ⊢
    omega
  rw [skipValue, skipFrom_blank blank, fuel]
  refine (goes (steps + 1) [] rest ends).trans ?_
  rfl

end

end EngineBridge.Json
