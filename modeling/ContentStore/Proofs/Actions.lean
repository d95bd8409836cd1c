import ContentStore.Proofs.Keys
import ContentStore.Proofs.Outcomes

/-!
# Actions

What a caller can ask of the service, as one type, so that a statement about every call is one
statement. `Action.run` carries an action out; `Awards` says what an action that is answered with
grants comes to, and `Ends` adds every other way in which an action can end. All that is known of
one action follows from the cases of these two (`Action.ensures_run`).
-/

namespace ContentStore

/-- What a caller can ask of the service. -/
inductive Action where
  | register (hashText : String) (m : Metadata) (autoLink : Bool)
  | fetch (hashText : String) (autoLink : Bool)
  | update (hashText : String) (revision : Revision)
  | delete (hashText : String)
  | list (q : ListRequest)

/-- The store that an operation leaves behind. -/
def Operation.left {α : Type} (x : Operation α) (e : Surroundings) (s : Store) : Store :=
  (x e ⟨s, 0⟩).2.store

namespace Action

/-- The texts that name contents. -/
def texts : Action → List String
  | register text _ _ => [text]
  | fetch text _ => [text]
  | update text revision => text :: revision.newHash.toList
  | delete text => [text]
  | list _ => []

/-- One of the texts of the action reads as this content. -/
def Names (a : Action) (hash : ContentHash) : Prop :=
  ∃ text ∈ a.texts, ContentHash.parse text = .ok hash

theorem Names.first {a : Action} {text : String} {rest : List String} {hash : ContentHash}
    (first : a.texts = text :: rest) (parsed : ContentHash.parse text = .ok hash) : a.Names hash :=
  ⟨text, first ▸ List.mem_cons_self, parsed⟩

/-- The contents that the action names, taken as the caller's, are among those used. -/
def Within (a : Action) (caller : Caller) (used : Set (String × ContentHash)) : Prop :=
  ∀ hash, a.Names hash → (caller.owner, hash) ∈ used

/-- The store after the action, whether it gets an answer or fails. -/
def after (a : Action) (caller : Caller) (e : Surroundings) (s : Store) : Store :=
  match a with
  | register text m autoLink => (Operation.register caller text m autoLink).left e s
  | fetch text autoLink => (Operation.fetch caller text autoLink).left e s
  | update text revision => (Operation.update caller text revision).left e s
  | delete text => (Operation.delete caller text).left e s
  | list q => (Operation.listPage caller q).left e s

/-! ### Answers -/

/-- What the action is answered with. -/
def Answer : Action → Type
  | register _ _ _ => Registered
  | fetch _ _ => Granted
  | update _ _ => Granted
  | delete _ => Record
  | list _ => Page

/-- The action, carried out for a caller. -/
def run (caller : Caller) : (a : Action) → Operation a.Answer
  | register text m autoLink => Operation.register caller text m autoLink
  | fetch text autoLink => Operation.fetch caller text autoLink
  | update text revision => Operation.update caller text revision
  | delete text => Operation.delete caller text
  | list q => Operation.listPage caller q

/-- The record of an answer with its grants; pages and deleted records come without any. -/
def granted? : (a : Action) → a.Answer → Option Granted
  | register _ _ _, done => some done.granted
  | fetch _ _, g => some g
  | update _ _, g => some g
  | delete _, _ => none
  | list _, _ => none

theorem after_eq_run (a : Action) (caller : Caller) (e : Surroundings) (s : Store) :
    a.after caller e s = (a.run caller e ⟨s, 0⟩).2.store := by
  cases a <;> rfl

variable {e : Surroundings} {s : Store} {caller : Caller}

/-! ### How an action ends -/

/-- The action comes to an award, over the store that it leaves behind. -/
inductive Awards (e : Surroundings) (s : Store) (caller : Caller) :
    Action → Award → Store → Prop where
  | registered {text : String} {m : Metadata} {autoLink created : Bool} {hash : ContentHash}
      {w : Award} {s' : Store} :
      ContentHash.parse text = .ok hash → Registers e s caller hash m autoLink w created s' →
      Awards e s caller (.register text m autoLink) w s'
  | fetched {text : String} {autoLink : Bool} {hash : ContentHash} {w : Award} {s' : Store} :
      ContentHash.parse text = .ok hash → Fetches e s caller hash autoLink w s' →
      Awards e s caller (.fetch text autoLink) w s'
  | updated {text : String} {revision : Revision} {hash : ContentHash} {w : Award} {s' : Store} :
      ContentHash.parse text = .ok hash → Updates e s caller hash revision w s' →
      Awards e s caller (.update text revision) w s'

/-- The action leaves this store behind. -/
inductive Ends (e : Surroundings) (s : Store) (caller : Caller) : Action → Store → Prop where
  | unchanged {a : Action} : Ends e s caller a s
  | awarded {a : Action} {w : Award} {s' : Store} :
      Awards e s caller a w s' → Ends e s caller a s'
  /-- The bytes were found for a record of somebody else. -/
  | denied {text : String} {autoLink : Bool} {hash : ContentHash} {r : Resolution} {s' : Store} :
      ContentHash.parse text = .ok hash → Resolves e s caller.owner hash autoLink none r s' →
      Ends e s caller (.fetch text autoLink) s'
  | cut {text : String} {revision : Revision} {hash : ContentHash} {f : Failure} {s' : Store} :
      ContentHash.parse text = .ok hash → MoveCut e s caller hash revision f s' →
      Ends e s caller (.update text revision) s'
  | deleted {text : String} {hash : ContentHash} :
      ContentHash.parse text = .ok hash →
      Ends e s caller (.delete text) (s.markGarbage (storageId caller.owner hash) e.now)

/-- An action ends in one of the ways listed, and its grants are those of an award. -/
theorem ensures_run (a : Action) :
    (a.run caller).Ensures e s
      (fun answer s' => a.Ends e s caller s' ∧ ∀ g, a.granted? answer = some g →
        ∃ w expiresAt, a.Awards e s caller w s' ∧ g = w.granted e caller expiresAt)
      fun _ s' => a.Ends e s caller s' := by
  cases a with
  | register text m autoLink =>
      refine Operation.ensures_register ?_ fun f => .unchanged
      intro hash w created s' parsed registers
      have awards : Awards e s caller (.register text m autoLink) w s' :=
        .registered parsed registers
      refine Operation.ensures_award (fun expiresAt _ => ⟨.awarded awards, ?_⟩)
        fun _ => .awarded awards
      rintro g ⟨⟩
      exact ⟨w, expiresAt, awards, rfl⟩
  | fetch text autoLink =>
      refine Operation.ensures_fetch ?_ ?_ fun f => .unchanged
      · intro hash w s' parsed fetches
        have awards : Awards e s caller (.fetch text autoLink) w s' := .fetched parsed fetches
        refine Operation.ensures_award (fun expiresAt _ => ⟨.awarded awards, ?_⟩)
          fun _ => .awarded awards
        rintro g ⟨⟩
        exact ⟨w, expiresAt, awards, rfl⟩
      · intro hash r s' parsed resolves foreign
        exact .denied parsed resolves
  | update text revision =>
      refine Operation.ensures_update ?_ ?_ fun f => .unchanged
      · intro hash w s' parsed updates
        have awards : Awards e s caller (.update text revision) w s' := .updated parsed updates
        refine Operation.ensures_award (fun expiresAt _ => ⟨.awarded awards, ?_⟩)
          fun _ => .awarded awards
        rintro g ⟨⟩
        exact ⟨w, expiresAt, awards, rfl⟩
      · intro hash f s' parsed cut
        exact .cut parsed cut
  | delete text =>
      refine Operation.ensures_delete ?_ fun f => .unchanged
      intro hash row parsed found owned
      exact ⟨.deleted parsed, fun g none => nomatch none⟩
  | list q =>
      refine Operation.ensures_listPage ?_ fun f => .unchanged
      intro filter effective
      exact ⟨.unchanged, fun g none => nomatch none⟩

theorem ends (a : Action) (caller : Caller) (e : Surroundings) (s : Store) :
    a.Ends e s caller (a.after caller e s) := by
  have kept : (a.run caller).Ensures e s (fun _ s' => a.Ends e s caller s')
      fun _ s' => a.Ends e s caller s' :=
    a.ensures_run.mono (fun _ _ ends => ends.1) fun _ _ ends => ends
  rw [after_eq_run]
  exact kept.store 0

/-- What an action is granted is what it has been awarded. -/
theorem awarded {a : Action} {answer : a.Answer} {g : Granted}
    (answered : (a.run caller e ⟨s, 0⟩).1 = .ok answer) (grants : a.granted? answer = some g) :
    ∃ w expiresAt, a.Awards e s caller w (a.after caller e s) ∧
      g = w.granted e caller expiresAt := by
  rw [after_eq_run]
  exact (a.ensures_run.answered answered).2 g grants

end Action
end ContentStore
