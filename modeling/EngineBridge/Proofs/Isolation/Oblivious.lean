import EngineBridge.Proofs.Isolation.Ties

/-!
# Oblivious engines

An engine takes the context of a callback as a word to keep and to hand back, and never looks
into it.  Its answers are the same whatever the contexts are; and when it calls back, it does
so with a context that it has been given.

This is said of two runs of the engine at once: as long as the contexts in the two runs are
tied, so are the answers.
-/

set_option autoImplicit false

namespace EngineBridge

namespace Native

/-- Courses of the engine in two runs that differ in contexts only.  `Same` says of two states
that they differ in contexts only; while the engine waits for an upcall to end, it may be given
more contexts. -/
inductive Replies {σ α : Type} (Same : IdTies → σ → σ → Prop) :
    IdTies → Reply σ α → Reply σ α → Prop
  | done {ids : IdTies} {s s' : σ} (answer : α) (same : Same ids s s') :
      Replies Same ids (.done answer s) (.done answer s')
  | busy {ids : IdTies} {s s' : σ} {id id' : ConnectionId} {resume resume' : Int32 → σ → Reply σ α}
      (attempts : Int32) (given : (id, id') ∈ ids) (same : Same ids s s')
      (goesOn : ∀ ids₁ code t t', ids ⊆ ids₁ → Same ids₁ t t' →
        Replies Same ids₁ (resume code t) (resume' code t')) :
      Replies Same ids (.busy id.number attempts s resume) (.busy id'.number attempts s' resume')
  | function {ids : IdTies} {s s' : σ} {resume resume' : σ → Reply σ α} (context : Context)
      (count : Int32) (arguments : Option (List Argument)) (same : Same ids s s')
      (goesOn : ∀ ids₁ t t', ids ⊆ ids₁ → Same ids₁ t t' →
        Replies Same ids₁ (resume t) (resume' t')) :
      Replies Same ids (.function context count arguments s resume)
        (.function context count arguments s' resume')

/-- An engine that does not look into the contexts of callbacks. -/
structure Oblivious (E : Engine) where
  /-- The two states differ in contexts only, and those are tied. -/
  Same : IdTies → E.State → E.State → Prop
  mono : ∀ {ids ids₁ : IdTies} {s s' : E.State}, ids ⊆ ids₁ → Same ids s s' → Same ids₁ s s'
  answer : ∀ {ids : IdTies} {s s' : E.State} {c c' : Call}, Same ids s s' → c.Tied ids c' →
    Answered ids c (E.answer s c).1 c' (E.answer s' c').1 ∧
      Same ids (E.answer s c).2 (E.answer s' c').2
  execute : ∀ {ids : IdTies} {s s' : E.State}, Same ids s s' → ∀ execution,
    Replies Same ids (E.execute s execution) (E.execute s' execution)
  stimulate : ∀ {ids : IdTies} {s s' : E.State}, Same ids s s' → ∀ stimulus,
    Replies Same ids (E.stimulate s stimulus) (E.stimulate s' stimulus)

end Native

end EngineBridge
