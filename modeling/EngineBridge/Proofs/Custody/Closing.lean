import EngineBridge.Proofs.Custody.Opening

/-!
# Closing connections as moves

Closing a connection sets the connections free that its closures own; they are closed in
turn.  The bound on how far this reaches is never met: whenever a connection has closures
to let go, the registry has lost entries by then.
-/

set_option autoImplicit false

namespace EngineBridge

open Native

variable {E : Engine} {H : Host}

/-- What has happened stays in the transcript. -/
theorem AskedBy.mem_transcript {P : Call → Prop} {w w' : World E H} (h : AskedBy P w w')
    {entry : Entry} (he : entry ∈ w.transcript) : entry ∈ w'.transcript := by
  induction h with
  | refl => exact he
  | tail _ step ih =>
    obtain ⟨other, -, rfl⟩ | ⟨c, -, rfl⟩ := step
    · exact List.mem_cons_of_mem _ ih
    · exact List.mem_cons_of_mem _ ih

/-- Asking leaves the registry alone. -/
theorem AskedBy.registry_eq {P : Call → Prop} {w w' : World E H} (h : AskedBy P w w') :
    w'.registry = w.registry := by
  induction h with
  | refl => rfl
  | tail _ step ih =>
    obtain ⟨other, -, rfl⟩ | ⟨c, -, rfl⟩ := step
    · exact ih
    · exact ih

/-- The closures of a connection leave the registry with it. -/
theorem Registry.size_eraseOwner (r : Registry H) (id : ConnectionId) :
    r.ownedBy id = [] ∧ (r.eraseOwner id).size = r.size ∨ (r.eraseOwner id).size < r.size := by
  obtain ⟨entries, distinct⟩ := r
  by_cases h : ∀ entry ∈ entries, entry.1.owner ≠ id
  · refine .inl ⟨?_, ?_⟩
    · simpa [ownedBy, List.filter_eq_nil_iff] using fun key r he => h (key, r) he
    · simp only [size, eraseOwner]
      rw [List.filter_eq_self.mpr fun entry he => by simpa using h entry he]
  · push Not at h
    obtain ⟨entry, he, howner⟩ := h
    exact .inr (List.length_filter_lt_length_iff_exists.mpr ⟨entry, he, by simp [howner]⟩)

/-- A closure that owns nothing adds nothing to what closures own. -/
theorem capturedBy_cons_of_none {r : Registration H} (regs : List (Registration H))
    (h : r.owned = none) : capturedBy (r :: regs) = capturedBy regs := by
  simp [capturedBy, h]

/-- A closure adds the connection that it owns to what closures own. -/
theorem capturedBy_cons_of_some {r : Registration H} (regs : List (Registration H))
    {conn : Connection} (h : r.owned = some conn) :
    capturedBy (r :: regs) = conn ::ₘ capturedBy regs := by
  simp [capturedBy, h]

/-- The world in which the engine has closed the object of a connection, whose closures are
yet to go. -/
def World.letGo (w : World E H) (conn : Connection) (d : Database) : World E H :=
  (Bridge.disarm conn.id ((w.announced (.closeV2 d)).asked (.closeV2 d))).2.withRegistry
    (w.registry.eraseOwner conn.id)

/-- Letting closures go lets the connections go that they own, as long as the registry is
smaller than `bound`. -/
def Frees (bound : Nat) (dispose : List (Registration H) → Bridge E H Unit) : Prop :=
  ∀ regs κ (w : World E H) rest, κ.exclusive = capturedBy regs + rest →
    regs = [] ∨ w.registry.size < bound →
    Leads Move (dispose regs) κ w fun _ κ' w' =>
      κ' = { κ with exclusive := rest } ∧ w'.registry.size ≤ w.registry.size

namespace Connection

variable {κ : Custody} {w : World E H} {conn : Connection} {rest : Multiset Connection}
variable {dispose : List (Registration H) → Bridge E H Unit} {bound : Nat}

/-- Once the engine has agreed to close it, a connection has only its closures to let
go. -/
theorem closeWith_eq {d : Database} (database : conn.database = .ok d)
    (done : (w.announced (.closeV2 d)).answer (.closeV2 d) = (0 : Int32)) :
    conn.closeWith dispose w = (do
      dispose (w.registry.ownedBy conn.id)
      Bridge.report (.closed conn.id (w.registry.ownedBy conn.id).length)
      pure (Except.ok (), { conn with state := .closed, handle := none }))
        (w.letGo conn d) := by
  unfold closeWith
  simp only [database]
  rw [Bridge.call_bind, if_pos (show _ = NamedCode.ok.value from done)]
  rfl

/-- A connection that is not open stays as it is. -/
theorem closeWith_eq_of_error {e : StateError} (database : conn.database = .error e) :
    conn.closeWith dispose w = ((.error (.state e), conn), w) := by
  unfold closeWith
  rw [database]
  rfl

/-- Once the engine has refused to close it, a connection stays as it is, and the engine is asked
what is wrong. -/
theorem closeWith_eq_of_refused {d : Database} (database : conn.database = .ok d)
    (refused : ¬ (w.announced (.closeV2 d)).answer (.closeV2 d) = (0 : Int32)) :
    conn.closeWith dispose w = (do
      let e ← Bridge.diagnose (some d) .closeV2 ((w.announced (.closeV2 d)).answer (.closeV2 d))
      pure (Except.error (BindError.engine e), conn))
        ((w.announced (.closeV2 d)).asked (.closeV2 d)) := by
  unfold closeWith
  rw [database]
  dsimp only
  rw [Bridge.call_bind, if_neg (show ¬ _ = NamedCode.ok.value from refused)]

/-- A connection in nobody else's hands is closed, or stays as it was and has been asked to
close. -/
theorem leads_closeWith (frees : Frees bound dispose) (hand : κ.exclusive = conn ::ₘ rest)
    (small : w.registry.size ≤ bound) :
    Leads Move (conn.closeWith dispose) κ w fun r κ' w' =>
      r.2.id = conn.id ∧ κ' = { κ with exclusive := r.2 ::ₘ rest } ∧
        w'.registry.size ≤ w.registry.size ∧
        ∀ d, r.2.database = .ok d → ∃ code, .called (.closeV2 d) code ∈ w'.transcript := by
  cases database : conn.database with
  | error e =>
    refine Leads.shift .refl (n := pure _) (closeWith_eq_of_error database) ?_
    refine Leads.pure ⟨rfl, ?_, Nat.le_refl _, ?_⟩
    · rw [← hand]
    · intro d hd
      cases database.symm.trans hd
  | ok d =>
    have announce : Move ⟨κ, w⟩ ⟨κ, w.announced (.closeV2 d)⟩ := .note trivial
    by_cases done : (w.announced (.closeV2 d)).answer (.closeV2 d) = (0 : Int32)
    · -- the call, the end of interrupts and the loss of the closures are one move
      have close := Move.close (w := w.announced (.closeV2 d)) hand database done
      refine Leads.shift (v := w.letGo conn d) (.head announce (.single close))
        (closeWith_eq database done) ?_
      have size := Registry.size_eraseOwner w.registry conn.id
      have hsize : (w.letGo conn d).registry.size = (w.registry.eraseOwner conn.id).size := rfl
      refine Leads.bind (frees (w.registry.ownedBy conn.id) _ (w.letGo conn d)
        ({ conn with state := .closed, handle := none } ::ₘ rest) ?_ ?_) ?_
      · exact (Multiset.add_cons _ _ _).symm
      · rcases size with ⟨hnil, -⟩ | hlt
        · exact .inl hnil
        · exact .inr (by omega)
      · rintro _ _ w₂ ⟨rfl, hle⟩
        refine Leads.record_bind trivial (Leads.pure ⟨rfl, rfl, ?_, nofun⟩)
        show w₂.registry.size ≤ w.registry.size
        omega
    · have refuse : Move ⟨κ, w.announced (.closeV2 d)⟩
          ⟨κ, (w.announced (.closeV2 d)).asked (.closeV2 d)⟩ :=
        .refuseClose (by simp [hand]) database done
      refine Leads.shift (.head announce (.single refuse))
        (closeWith_eq_of_refused database done) ?_
      have reach : Stage.Reaches ⟨κ, (w.announced (.closeV2 d)).asked (.closeV2 d)⟩ (.database d) :=
        Custody.reaches_exclusive (by simp [hand]) (handle_of_database database)
      have diagnosed : Leads Move (Bridge.diagnose (some d) .closeV2
          ((w.announced (.closeV2 d)).answer (.closeV2 d))) κ
          ((w.announced (.closeV2 d)).asked (.closeV2 d)) fun _ κ₁ w₁ => κ₁ = κ ∧
            AskedBy (Call.Within (some d) none)
              ((w.announced (.closeV2 d)).asked (.closeV2 d)) w₁ :=
        Leads.diagnose (fun _ hd => Option.some.inj hd ▸ reach) fun _ _ asked => ⟨rfl, asked⟩
      refine Leads.bind diagnosed ?_
      rintro e κ w₁ ⟨rfl, asked⟩
      refine Leads.pure ⟨rfl, ?_, ?_, ?_⟩
      · rw [← hand]
      · rw [asked.registry_eq]
        exact Nat.le_refl _
      · intro d' hd'
        obtain rfl : d = d' := Except.ok.inj (database.symm.trans hd')
        exact ⟨_, asked.mem_transcript List.mem_cons_self⟩

/-- A connection in nobody else's hands goes out of use. -/
theorem leads_dropWith (frees : Frees bound dispose) (hand : κ.exclusive = conn ::ₘ rest)
    (small : w.registry.size ≤ bound) :
    Leads Move (conn.dropWith dispose) κ w fun _ κ' w' =>
      κ' = { κ with exclusive := rest } ∧ w'.registry.size ≤ w.registry.size := by
  unfold dropWith
  split
  · refine Leads.bind (leads_closeWith frees hand small) ?_
    rintro ⟨result, other⟩ _ w₁ ⟨-, rfl, hle, tried⟩
    have discarded {w₂ : World E H} (htried : ∀ d, other.database = .ok d →
        ∃ code, .called (.closeV2 d) code ∈ w₂.transcript) :
        Move ⟨{ κ with exclusive := other ::ₘ rest }, w₂⟩ ⟨{ κ with exclusive := rest }, w₂⟩ :=
      .discard rfl htried
    cases result with
    | ok => exact Leads.before (discarded tried) (Leads.pure ⟨rfl, hle⟩)
    | error e =>
      refine Leads.before (discarded tried) (Leads.record trivial ⟨rfl, hle⟩)
  · next hclosed =>
    refine Leads.before (.discard hand fun d hd => ?_) (Leads.pure ⟨rfl, Nat.le_refl _⟩)
    exact absurd (database_eq_ok_iff.mp hd).1 hclosed

end Connection

namespace Bridge

/-- As deep as the registry is large, connections go with the closures that own them. -/
theorem frees_disposeTo (depth : Nat) : Frees depth (disposeTo depth : _ → Bridge E H Unit) := by
  induction depth with
  | zero =>
    intro regs κ w rest hand small
    obtain rfl : regs = [] := small.resolve_right (Nat.not_lt_zero _)
    refine Leads.pure ⟨?_, Nat.le_refl _⟩
    rw [show rest = κ.exclusive from by simp [hand, capturedBy]]
  | succ depth ih =>
    intro regs
    unfold disposeTo
    induction regs with
    | nil =>
      intro κ w rest hand _
      refine Leads.pure ⟨?_, Nat.le_refl _⟩
      rw [show rest = κ.exclusive from by simp [hand, capturedBy]]
    | cons r regs others =>
      intro κ w rest hand small
      have hsize : w.registry.size < depth + 1 := small.resolve_left (List.cons_ne_nil _ _)
      rw [List.forM_eq_forM, List.forM_cons]
      cases howned : r.owned with
      | none =>
        rw [capturedBy_cons_of_none regs howned] at hand
        exact others κ w rest hand (.inr hsize)
      | some conn =>
        rw [capturedBy_cons_of_some regs howned, Multiset.cons_add] at hand
        refine Leads.bind (Connection.leads_dropWith ih hand (by omega)) ?_
        rintro _ _ w₁ ⟨rfl, hle⟩
        refine (others _ w₁ rest rfl (.inr (by omega))).mono ?_
        rintro _ _ w₂ ⟨rfl, hle'⟩
        exact ⟨rfl, by omega⟩

/-- However large the registry is, connections go with the closures that own them. -/
theorem frees_dispose (bound : Nat) : Frees bound (dispose : _ → Bridge E H Unit) := by
  intro regs κ w rest hand _
  exact Leads.get_bind (frees_disposeTo _ regs κ w rest hand (.inr (Nat.lt_succ_self _)))

/-- Closures go, and the connections that they own. -/
theorem leads_dispose {regs : List (Registration H)} {κ : Custody} {w : World E H}
    {rest : Multiset Connection} (hand : κ.exclusive = capturedBy regs + rest) :
    Leads Move (dispose regs) κ w fun _ κ' _ => κ' = { κ with exclusive := rest } := by
  have freed := frees_dispose (w.registry.size + 1) regs κ w rest hand
    (.inr (Nat.lt_succ_self _))
  exact freed.mono fun _ _ _ h => h.1

end Bridge

namespace Connection

variable {κ : Custody} {w : World E H} {conn : Connection} {rest : Multiset Connection}

/-- A connection in nobody else's hands is closed or stays as it was. -/
theorem leads_close (hand : κ.exclusive = conn ::ₘ rest) :
    Leads Move (conn.close : Bridge E H _) κ w fun r κ' _ =>
      r.2.id = conn.id ∧ κ' = { κ with exclusive := r.2 ::ₘ rest } :=
  (leads_closeWith (Bridge.frees_dispose _) hand (Nat.le_refl _)).mono
    fun _ _ _ h => ⟨h.1, h.2.1⟩

/-- A connection in nobody else's hands goes out of use. -/
theorem leads_drop (hand : κ.exclusive = conn ::ₘ rest) :
    Leads Move (conn.drop : Bridge E H Unit) κ w fun _ κ' _ =>
      κ' = { κ with exclusive := rest } :=
  (leads_dropWith (Bridge.frees_dispose _) hand (Nat.le_refl _)).mono fun _ _ _ h => h.1

/-- Either there is a connection that is open now, or there is none and none is left
behind. -/
theorem leads_connectWith (path : String) (options : OpenOptions) (idle : κ.opening = none) :
    Leads Move (connectWith path options : Fallible E H Connection).run κ w fun r κ' _ =>
      match r with
      | .ok conn => κ' = { κ with exclusive := conn ::ₘ κ.exclusive }
      | .error _ => κ' = κ := by
  unfold connectWith
  refine Leads.run_lift_bind leads_create ?_
  rintro conn _ w₁ ⟨-, rfl⟩
  refine Leads.run_lift_bind (leads_openWith path options idle rfl) ?_
  rintro ⟨result, other⟩ _ w₂ ⟨-, -, rfl⟩
  cases result with
  | ok => exact Leads.pure rfl
  | error e =>
    refine Leads.run_lift_bind (leads_drop rfl) ?_
    rintro _ _ w₃ rfl
    exact Leads.pure rfl

end Connection

end EngineBridge
