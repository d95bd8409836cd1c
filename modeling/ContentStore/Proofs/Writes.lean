import ContentStore.Proofs.Reachable

/-!
# What an action writes

An action writes one row, or turns one row into garbage, or does both when it moves a record, or
does nothing (`Writes`). `Draft.Due` lists the rows that an owner's action can write, with what has
been read for each. Unlike `Effect`, which a quota or a caller's keys are read off, these cases do
not rest on keys telling owners and contents apart.
-/

namespace ContentStore

/-- The drafts that an action of the owner can come to, for contents that it names. -/
inductive Draft.Due (e : Surroundings) (s : Store) (owner : String) (names : ContentHash → Prop) :
    Draft → Prop where
  /-- A record that waits for its bytes. -/
  | own {hash : ContentHash} {m : Metadata} {size : Int} :
      names hash → m.size = .ok size → Due e s owner names (ownDraft owner hash m size)
  /-- A record with new metadata, as one that owns its bytes. -/
  | revised {hash : ContentHash} {row : Record} {m : Metadata} {size : Int} :
      names hash → s.find? (ContentStore.storageId owner hash) = some row →
      m.sizeFor row = .ok size → Due e s owner names (row.revised m size)
  /-- A link with a new name. -/
  | renamed {hash : ContentHash} {row : Record} {m : Metadata} :
      names hash → s.find? (ContentStore.storageId owner hash) = some row →
      Due e s owner names (row.renamed m)
  /-- A record for other content. -/
  | moved {hash newHash : ContentHash} {row : Record} {m : Metadata} {size : Int} :
      names newHash → s.find? (ContentStore.storageId owner hash) = some row →
      m.sizeFor row = .ok size → Due e s owner names (row.moved owner newHash m size)
  /-- A link to the bytes of another owner. -/
  | linked {hash : ContentHash} {given : Option String} {target : Record} :
      names hash → e.source? s owner hash = some target →
      Due e s owner names (s.linkTo owner hash given target)

/-- The stores that the writes of one action of the owner can make of a store. -/
inductive Writes (e : Surroundings) (s : Store) (owner : String) (names : ContentHash → Prop) :
    Store → Prop where
  | nothing : Writes e s owner names s
  | row {d : Draft} : d.Due e s owner names → Writes e s owner names (s.put d e.now)
  | garbage {key : String} : Writes e s owner names (s.markGarbage key e.now)
  | moved {d : Draft} {key : String} : d.Due e s owner names → d.linkedObject = "" →
      Writes e s owner names ((s.put d e.now).markGarbage key e.now)

section Writing

variable {e : Surroundings} {s s' : Store} {caller : Caller} {owner : String}
  {names : ContentHash → Prop} {hash : ContentHash} {w : Award}

/-! ### From the outcomes to the writes -/

theorem Resolves.writes {autoLink : Bool} {given : Option String} {r : Resolution}
    (resolves : Resolves e s owner hash autoLink given r s') (named : names hash) :
    Writes e s owner names s' := by
  cases resolves with
  | backed => exact .nothing
  | link => exact .nothing
  | linked _ _ source _ => exact .row (.linked named source)

theorem Registers.writes {m : Metadata} {autoLink created : Bool}
    (registers : Registers e s caller hash m autoLink w created s') (named : names hash) :
    Writes e s caller.owner names s' := by
  cases registers with
  | known => exact .nothing
  | relinked _ _ _ _ resolves => exact resolves.writes named
  | repaired found _ _ _ sized _ => exact .row (.revised named found sized)
  | linked _ _ resolves => exact resolves.writes named
  | created _ _ sized _ => exact .row (.own named sized)

theorem Fetches.writes {autoLink : Bool} (fetches : Fetches e s caller hash autoLink w s')
    (named : names hash) : Writes e s caller.owner names s' := by
  cases fetches with
  | resolved resolves => exact resolves.writes named
  | waiting => exact .nothing

theorem Updates.writes {text : String} {revision : Revision}
    (updates : Updates e s caller hash revision w s')
    (parsed : ContentHash.parse text = .ok hash) :
    Writes e s caller.owner (Action.update text revision).Names s' := by
  have named : (Action.update text revision).Names hash := .first rfl parsed
  cases updates with
  | renamed _ found _ _ => exact .row (.renamed named found)
  | revised _ found _ _ sized _ => exact .row (.revised named found sized)
  | moved moves ready =>
      have newNamed := (names_of_moveTo? parsed moves).2
      exact .moved (.moved newNamed ready.live ready.sized) rfl

theorem MoveCut.writes {text : String} {revision : Revision} {f : Failure}
    (cut : MoveCut e s caller hash revision f s') (parsed : ContentHash.parse text = .ok hash) :
    Writes e s caller.owner (Action.update text revision).Names s' := by
  cases cut with
  | erase moves ready _ _ =>
      exact .row (.moved (names_of_moveTo? parsed moves).2 ready.live ready.sized)
  | probe moves ready _ =>
      exact .moved (.moved (names_of_moveTo? parsed moves).2 ready.live ready.sized) rfl

/-- Whatever an action meets, it leaves what its writes make of the store. -/
theorem Action.writes (a : Action) (caller : Caller) (e : Surroundings) (s : Store) :
    Writes e s caller.owner a.Names (a.after caller e s) := by
  have ends := a.ends caller e s
  generalize a.after caller e s = s' at ends
  cases ends with
  | unchanged => exact .nothing
  | awarded awards =>
      cases awards with
      | @registered text _ _ _ _ _ _ parsed registers =>
          exact registers.writes (.first rfl parsed)
      | @fetched text _ _ _ _ parsed fetches =>
          exact fetches.writes (.first rfl parsed)
      | updated parsed updates => exact updates.writes parsed
  | @denied text _ _ _ _ parsed resolves =>
      exact resolves.writes (.first rfl parsed)
  | cut parsed cut => exact cut.writes parsed
  | deleted => exact .garbage

/-! ### What every write keeps -/

/-- What a write of a due draft makes true, and what turning a row into garbage keeps, holds of
what an action leaves. -/
theorem Writes.keeps {holds : Store → Prop} (writes : Writes e s owner names s') (start : holds s)
    (row : ∀ d, Draft.Due e s owner names d → holds (s.put d e.now))
    (garbage : ∀ t key, holds t → holds (t.markGarbage key e.now)) : holds s' := by
  cases writes with
  | nothing => exact start
  | row due => exact row _ due
  | garbage => exact garbage _ _ start
  | moved due _ => exact garbage _ _ (row _ due)

end Writing
end ContentStore
