import CsiOperator.Proofs.Publication.Server

/-! Publications that overlap with one another and with other clients of the server. -/

namespace CsiOperator.Publication

open Api (Exchange Outcome Reply Request Store Traffic)

/-- What is left of a publication, and the references of the ledger that it began with. -/
structure Publishing where
  /-- The references. -/
  ours : List RelatedObject
  /-- What is left. -/
  rest : Exchange (Except Failure Bool)

/-- The record at a server, and the publications that have begun. -/
abbrev World := Traffic (List RelatedObject) Publishing

/-- What happens at the server or to a publication. -/
inductive Action where
  /-- A publication begins with what the ledger has. -/
  | begin (i : Nat) (ledger : Bool × List RelatedObject)
  /-- Another client writes the record. -/
  | write (version : String) (objects : List RelatedObject)
  /-- Another client removes the record. -/
  | remove
  /-- The server serves the request of a publication. -/
  | serve (i : Nat) (outcome : Outcome)

/-- No other client takes part. -/
def Action.ours : Action → Bool
  -- A publication begins and is served; everything else is done by others.
  | .begin _ _ | .serve _ _ => true
  | .write _ _ | .remove => false

/-- One action. -/
inductive Step (w : World) : Action → World → Prop
  /-- A publication begins; one of its number that has not ended is dropped. -/
  | begin (i : Nat) (ledger : Bool × List RelatedObject) :
    Step w (.begin i ledger) (w.suspend i ⟨ledger.2, publishThrough ledger⟩)
  /-- Another client writes what it wants to. -/
  | write {version : String} (objects : List RelatedObject) : version ∉ w.store.used →
    Step w (.write version objects) { w with store := w.store.put version objects }
  /-- Another client removes the record. -/
  | remove : Step w .remove { w with store := w.store.remove }
  /-- The request that a publication has sent is served, and it goes on with the reply. -/
  | serve {i : Nat} {ours : List RelatedObject} {request : Request}
    {next : Reply → Exchange (Except Failure Bool)} {reply : Reply} {outcome : Outcome}
    {store : Store (List RelatedObject)} : w.calls i = some ⟨ours, .ask request next⟩ →
    Serves w.store request reply outcome store →
    Step w (.serve i outcome) ({ w with store }.suspend i ⟨ours, next reply⟩)

/-- Any number of actions. -/
abbrev Run (w : World) : List Action → World → Prop :=
  Api.Run Step w

/-- How far a publication has come. -/
inductive Stage (s : Store (List RelatedObject)) (ours : List RelatedObject) :
    Exchange (Except Failure Bool) → Prop
  /-- It is about to read the record. -/
  | reading : Stage s ours (.ask readRequest (reading ours))
  /-- It is about to write what it has made of the record as it was at some version. -/
  | writing {version : String} {current merged : List RelatedObject} :
    s.Recalls version current → merge current ours = some merged →
    Stage s ours (.ask (writeRequest (some version) merged) fun reply => .done (settled reply))
  /-- It has ended. -/
  | ended (outcome : Except Failure Bool) : Stage s ours (.done outcome)

namespace Stage

variable {s t : Store (List RelatedObject)} {ours : List RelatedObject}
  {rest : Exchange (Except Failure Bool)}

/-- Every publication begins at a stage. -/
theorem begin (s : Store (List RelatedObject)) (ledger : Bool × List RelatedObject) :
    Stage s ledger.2 (publishThrough ledger) := by
  -- Whether anything is asked depends only on whether the ledger has had anything yet.
  obtain ⟨any, ours⟩ := ledger
  cases any with
  | false =>
    rw [publishThrough_none]
    exact .ended _
  | true =>
    rw [publishThrough_some]
    exact .reading

/-- A publication stays where it is while versions keep standing for their contents. -/
theorem keep (stage : Stage s ours rest)
    (recalls : ∀ version content, s.Recalls version content → t.Recalls version content) :
    Stage t ours rest := by
  -- Only a publication about to write depends on the store, for the version that it has read.
  cases stage with
  | reading => exact .reading
  | writing read merges => exact .writing (recalls _ _ read) merges
  | ended outcome => exact .ended outcome

end Stage

/-- Serving a request leaves versions standing for their contents. -/
theorem Serves.recalls {s t : Store (List RelatedObject)} {request : Request} {reply : Reply}
    {outcome : Outcome} (serves : Serves s request reply outcome t) {version : String}
    {content : List RelatedObject} (recalls : s.Recalls version content) :
    t.Recalls version content := by
  -- A reply that shows the record changes nothing, and a write takes a version that is fresh.
  cases serves with
  | shown => exact recalls
  | change changes =>
    cases changes with
    | accepted _ _ _ _ fresh => exact recalls.put fresh _
    | conflict | failed => exact recalls

/-- A publication goes on to its next stage with the reply to its request. -/
theorem Stage.next {s t : Store (List RelatedObject)} {ours : List RelatedObject}
    {request : Request} {next : Reply → Exchange (Except Failure Bool)} {reply : Reply}
    {outcome : Outcome} (stage : Stage s ours (.ask request next))
    (serves : Serves s request reply outcome t) : Stage t ours (next reply) := by
  -- The reply decides at both stages; after the first one there may be something to write.
  cases stage with
  | writing read merges => exact .ended _
  | reading =>
    cases brought : found reply with
    | error cause =>
      -- Without a record the publication ends, whatever the reason.
      simp only [Publication.reading, brought]
      cases cause with
      | refused status message reason code =>
        dsimp only
        split <;> exact .ended _
      | _ => exact .ended _
    | ok operator =>
      cases serves with
      | shown _ _ present shows =>
        rw [shows.reading_eq brought]
        split
        · exact .ended _
        · rename_i merges
          exact .writing (Store.recalls_object present) merges
      | change changes =>
        -- A read asks for no change.
        cases changes with
        | accepted asks | conflict asks => cases asks.method
        | failed nothing =>
          rw [show listing.found reply = _ from brought] at nothing
          cases nothing

/-- A publication keeps the ledger that it began with while its requests are served. -/
theorem Step.ours {w w' : World} {i : Nat} {outcome : Outcome} (step : Step w (.serve i outcome) w')
    {j : Nat} {call : Publishing} (pending : w'.calls j = some call) :
    ∃ before, w.calls j = some before ∧ before.ours = call.ours := by
  -- A step that serves a request has a publication that has asked for it.
  cases step with
  | @serve _ ours _ next reply _ _ asked =>
    -- Only the publication that is served goes on, and it keeps its references.
    obtain ⟨rfl, rfl⟩ | ⟨-, waiting⟩ := Traffic.of_suspend pending
    · exact ⟨_, asked, rfl⟩
    · exact ⟨call, waiting, rfl⟩

/-- A publication that has been shown the record goes on to write what it has made of it. -/
theorem Step.shown {w : World} {i : Nat} {ours merged : List RelatedObject} {r : Record}
    {reply : Reply} (pending : w.calls i = some ⟨ours, publishThrough (true, ours)⟩)
    (present : w.store.object = some r) (shows : Shows r reply)
    (read : (found reply).isOk = true) (merges : merge r.content ours = some merged) :
    Step w (.serve i .shown) (w.suspend i ⟨ours,
      .ask (writeRequest (some r.version) merged) fun reply => .done (settled reply)⟩) := by
  -- A record that can be read is read as it is shown.
  rw [publishThrough_some] at pending
  obtain ⟨operator, brought⟩ := (Failure.isOk_iff _).mp read
  have step := Step.serve pending (.shown rfl rfl present shows)
  rw [shows.reading_eq brought, merges] at step
  exact step

/-- What comes of serving a publication that has begun with some references. -/
structure Served (w w' : World) (i : Nat) (ours : List RelatedObject) (outcome : Outcome) :
    Prop where
  /-- The references that are missing have been put after those that the record has had. -/
  accepted : outcome = .accepted → ∃ r r', w.store.object = some r ∧ w'.store.object = some r' ∧
    r'.content = r.content ++ missing r.content ours
  /-- Without a change the record is as it was. -/
  unchanged : outcome ≠ .accepted → w'.store = w.store
  /-- After a conflict the publication has ended without a failure. -/
  conflict : outcome = .conflict → w'.calls i = some ⟨ours, .done (.ok false)⟩

/-- Every publication is at a stage. -/
def Staged (w : World) : Prop :=
  w.Every fun call => Stage w.store call.ours call.rest

namespace Staged

variable {w w' : World}

/-- Before anything is published there is nothing to be out of place. -/
theorem start (store : Store (List RelatedObject)) : Staged (Traffic.start store) :=
  Traffic.Every.start store

/-- Publications stay where they are while versions keep standing for their contents. -/
theorem keep (staged : Staged w) {store : Store (List RelatedObject)}
    (recalls : ∀ version content, w.store.Recalls version content →
      store.Recalls version content) : Staged { w with store } :=
  fun i call present => (staged i call present).keep recalls

/-- One action leaves every publication at a stage. -/
theorem step (staged : Staged w) {action : Action} (step : Step w action w') : Staged w' := by
  -- One case for each action; only serving a request moves a publication on.
  cases step with
  | begin i ledger => exact Traffic.Every.suspend staged i (.begin w.store ledger)
  | write objects fresh => exact staged.keep fun _ _ recalls => recalls.put fresh objects
  | remove => exact staged.keep fun _ _ recalls => recalls.remove
  | serve present serves =>
    -- The others stay at their stages, and the one that is served goes on to its next one.
    have kept := staged.keep fun _ _ recalls => serves.recalls recalls
    exact Traffic.Every.suspend kept _ ((staged _ _ present).next serves)

/-- Any number of actions leaves every publication at a stage. -/
theorem run (staged : Staged w) {actions : List Action} (run : Run w actions w') : Staged w' :=
  run.keeps (fun kept step => kept.step step) staged

/-- A publication whose request is served adds what is missing, or changes nothing. -/
theorem serve (staged : Staged w) {i : Nat} {outcome : Outcome}
    (step : Step w (.serve i outcome) w') : ∃ ours rest, w.calls i = some ⟨ours, rest⟩ ∧
      Served w w' i ours outcome := by
  -- The stage of the publication says what its request is, and the reply what becomes of it.
  cases step with
  | @serve _ ours request next reply _ store pending serves =>
    refine ⟨ours, _, pending, ?_⟩
    have stage : Stage w.store ours (.ask request next) := staged i _ pending
    cases serves with
    | shown => exact ⟨by simp, fun _ => rfl, by simp⟩
    | change changes =>
      cases changes with
      | failed => exact ⟨by simp, fun _ => rfl, by simp⟩
      | conflict asks _ _ _ conflicts =>
        refine ⟨by simp, fun _ => rfl, fun _ => ?_⟩
        -- Only writes are refused, and a refused write ends the publication.
        cases stage with
        | reading => cases asks.method
        | writing => simp [Traffic.suspend, settled_conflict conflicts]
      | @accepted r change objects version asks present current merges fresh =>
        refine ⟨fun _ => ⟨r, ⟨version, objects⟩, present, rfl, ?_⟩, fun other => absurd rfl other,
          by simp⟩
        cases stage with
        | reading => cases asks.method
        | @writing read content merged recalls merge =>
          -- The record still has the version that has been read, and so it has the same content.
          obtain rfl := Option.some.inj asks.body
          have same : r.content = content :=
            recalls.same r present (current read (versionOf_change _ _)).symm
          have all : merged = objects := by simpa [replaced_change] using merges
          rw [same, ← merge_eq_some merge, all]

/-- An accepted write is the only action of ours that changes the record, and it appends to it. -/
theorem grows (staged : Staged w) {action : Action} (step : Step w action w')
    (own : action.ours = true) {r : Record} (present : w.store.object = some r) :
    ∃ r', w'.store.object = some r' ∧ r.content <+: r'.content ∧
      ∀ o ∈ r'.content, o ∈ r.content ∨ ∃ i call, w.calls i = some call ∧ o ∈ call.ours := by
  -- Of our own actions only serving a request can change the record.
  cases action with
  | begin i ledger =>
    cases step with
    | begin => exact ⟨r, present, List.prefix_rfl, fun o member => .inl member⟩
  | write | remove => cases own
  | serve i outcome =>
    obtain ⟨ours, rest, pending, served⟩ := staged.serve step
    by_cases changed : outcome = .accepted
    · -- What is missing goes to the end, and it comes from the publication that is served.
      obtain ⟨before, after, found, written, appended⟩ := served.accepted changed
      obtain rfl : before = r := by simpa [found] using present
      refine ⟨after, written, appended ▸ List.prefix_append .., fun o member => ?_⟩
      rw [appended, List.mem_append] at member
      exact member.imp_right fun new => ⟨i, _, pending, (List.mem_filter.mp new).1⟩
    · have same := served.unchanged changed
      exact ⟨r, same ▸ present, List.prefix_rfl, fun o member => .inl member⟩

end Staged

/-- A reference is in the ledger of a publication under way, or of one that begins. -/
def Offered (w : World) (actions : List Action) (o : RelatedObject) : Prop :=
  -- What is under way was begun before the actions that are looked at.
  (∃ i call, w.calls i = some call ∧ o ∈ call.ours) ∨
    ∃ i ledger, Action.begin i ledger ∈ actions ∧ o ∈ ledger.2

/-- What has been offered stays so. -/
theorem Offered.snoc {w : World} {actions : List Action} {o : RelatedObject}
    (offered : Offered w actions o) (action : Action) : Offered w (actions ++ [action]) o :=
  -- What is offered is told by what has been begun, and more actions only add to that.
  offered.imp_right fun ⟨i, ledger, begun, member⟩ =>
    ⟨i, ledger, List.mem_append_left _ begun, member⟩

namespace Run

variable {w w' : World} {actions : List Action}

/-- The ledgers of publications are those that they have begun with. -/
theorem offered (run : Run w actions w') {i : Nat} {call : Publishing}
    (pending : w'.calls i = some call) {o : RelatedObject} (member : o ∈ call.ours) :
    Offered w actions o := by
  -- References enter a publication when it begins, and never later.
  induction run generalizing i call with
  | nil => exact .inl ⟨i, call, pending, member⟩
  | @snoc _ action mid last _ step ih =>
    cases step with
    | write | remove => exact (ih pending member).snoc _
    | begin j ledger =>
      obtain ⟨rfl, rfl⟩ | ⟨-, waiting⟩ := Traffic.of_suspend pending
      · exact .inr ⟨i, ledger, by simp, member⟩
      · exact (ih waiting member).snoc _
    | serve asked serves =>
      obtain ⟨before, waiting, same⟩ := (Step.serve asked serves).ours pending
      exact (ih waiting (same ▸ member)).snoc _

/-- While no other client takes part, the record only grows at its end. -/
theorem grows (run : Run w actions w') (staged : Staged w)
    (own : ∀ action ∈ actions, action.ours = true) {r : Record}
    (present : w.store.object = some r) : ∃ r', w'.store.object = some r' ∧
      r.content <+: r'.content ∧ ∀ o ∈ r'.content, o ∈ r.content ∨ Offered w actions o := by
  -- By induction on the run, whose last step grows what the steps before have left.
  induction run with
  | nil => exact ⟨r, present, List.prefix_rfl, fun o member => .inl member⟩
  | @snoc _ action mid last before step ih =>
    obtain ⟨between, there, grown, sources⟩ :=
      ih fun action member => own action (List.mem_append_left _ member)
    obtain ⟨after, now, more, new⟩ := (staged.run before).grows step (own action (by simp)) there
    refine ⟨after, now, grown.trans more, fun o member => ?_⟩
    -- What is there now was there before the last action, or a publication has added it.
    rcases new o member with old | ⟨i, call, pending, listed⟩
    · exact (sources o old).imp_right fun offered => offered.snoc action
    · exact .inr ((Run.offered before pending listed).snoc action)

end Run

/--
Publications never take anything from other clients, however they overlap.

A write that is accepted puts the references that are missing after those that the record has by
then, and one that is refused changes nothing. An entry of the record is read by its group, resource,
namespace and name, and whatever else another client may have put into it is not part of it here.
-/
theorem publications_append (store : Store (List RelatedObject)) {actions : List Action} {w : World}
    (run : Run (Traffic.start store) actions w) :
    (∀ i outcome w', Step w (.serve i outcome) w' → ∃ ours rest,
      w.calls i = some ⟨ours, rest⟩ ∧ Served w w' i ours outcome) ∧
    -- Until another client writes, what is there stays at the front, in its order.
    ∀ later w', Run w later w' → (∀ action ∈ later, action.ours = true) →
      ∀ r, w.store.object = some r → ∃ r', w'.store.object = some r' ∧
        r.content <+: r'.content ∧ ∀ o ∈ r'.content, o ∈ r.content ∨ Offered w later o := by
  -- From the start there are no publications, so each one that there is stands at a stage.
  have staged : Staged w := (Staged.start store).run run
  exact ⟨fun i outcome w' step => staged.serve step,
    fun later w' more own r present => more.grows staged own present⟩

/-- A reply that shows a record. -/
def shownReply (r : Record) : Reply :=
  -- The desired state has no fields, and the version is in the metadata.
  .answered 200 (Json.object [
    ("metadata", .object [("resourceVersion", .text r.version)]),
    ("spec", .object []),
    ("status", ClusterOperator.statusToJson r.content)]).compact

/-- A reply that refuses a change because of a conflict. -/
def conflictReply : Reply :=
  Api.Server.refusal 409 "Conflict" "the object has been modified"

/-- A record with one reference. -/
def firstRecord : Record :=
  ⟨"1", [.clusterScoped "" "namespaces" "a"]⟩

/-- The record after another client has put a reference before the first one. -/
def secondRecord : Record :=
  ⟨"2", .clusterScoped "" "namespaces" "b" :: firstRecord.content⟩

/-- What these records show can be read. -/
theorem shownReply_shows : ∀ r ∈ [firstRecord, secondRecord],
    Shows r (shownReply r) ∧ (found (shownReply r)).isOk = true := by
  -- There are two records, and of each the reply is evaluated.
  intro r member
  simp only [List.mem_cons, List.not_mem_nil, or_false] at member
  rcases member with rfl | rfl
  all_goals
    exact ⟨⟨_, _, rfl, by decide, by decide +kernel, by decide +kernel⟩, by decide +kernel⟩

/-- A write that comes after one of another client is refused, and the next one keeps both. -/
theorem publications_append_again :
    let own := RelatedObject.clusterScoped "" "clustercsidrivers" "c"
    let store : Store (List RelatedObject) := ⟨some firstRecord, ["1"], by simp [firstRecord]⟩
    ∃ w w', Run (Traffic.start store) [.begin 0 (true, [own]), .serve 0 .shown,
        .write "2" secondRecord.content, .serve 0 .conflict, .begin 0 (true, [own]),
        .serve 0 .shown] w ∧
      Step w (.serve 0 .accepted) w' ∧
        w'.store.object.map (·.content) = some (secondRecord.content ++ [own]) := by
  -- The run is put together step by step, and the law is applied to its second write.
  intro own store
  obtain ⟨shows, reads⟩ := shownReply_shows firstRecord (by simp)
  obtain ⟨showsAgain, readsAgain⟩ := shownReply_shows secondRecord (by simp)
  have begun := (Api.Run.nil : Run (Traffic.start store) [] _).snoc (.begin 0 (true, [own]))
  have read := begun.snoc (@Step.shown _ 0 [own] _ firstRecord _ rfl rfl shows reads rfl)
  have written := read.snoc (.write secondRecord.content (by decide : "2" ∉ ["1"]))
  -- The record has another version by the time of the write.
  have conflicts : conflictReply.Conflicts := ⟨_, rfl, by decide +kernel⟩
  have stale := Serves.stale (s := store.put "2" secondRecord.content) rfl
    (by decide : "1" ≠ "2") (firstRecord.content ++ [own]) conflicts
  have refused := written.snoc
    (@Step.serve _ 0 [own] _ (fun reply => .done (settled reply)) _ _ _ rfl stale)
  have begunAgain := refused.snoc (.begin 0 (true, [own]))
  obtain ⟨w, run, pending, stored⟩ : ∃ w, Run (Traffic.start store) [.begin 0 (true, [own]),
        .serve 0 .shown, .write "2" secondRecord.content, .serve 0 .conflict,
        .begin 0 (true, [own]), .serve 0 .shown] w ∧
      w.calls 0 = some ⟨[own], .ask (writeRequest (some "2") (secondRecord.content ++ [own]))
        fun reply => .done (settled reply)⟩ ∧ w.store = store.put "2" secondRecord.content :=
    ⟨_, begunAgain.snoc
      (@Step.shown _ 0 [own] _ secondRecord _ rfl rfl showsAgain readsAgain rfl), rfl, rfl⟩
  have present : w.store.object = some secondRecord := by rw [stored]; rfl
  have fresh : "3" ∉ w.store.used := by rw [stored]; decide
  have accepted := Step.serve pending (.current present fresh _ (.lost ""))
  refine ⟨w, _, run, accepted, ?_⟩
  -- The references of the ledger stand after those of the record at that moment.
  obtain ⟨ours, rest, begunWith, served⟩ :=
    (publications_append store run).1 0 .accepted _ accepted
  obtain rfl : [own] = ours := by
    rw [pending] at begunWith
    cases begunWith
    rfl
  obtain ⟨r, r', found, after, appended⟩ := served.accepted rfl
  obtain rfl : secondRecord = r := by simpa [present] using found
  rw [after, Option.map_some, appended]
  decide

end CsiOperator.Publication
