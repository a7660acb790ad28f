import CsiOperator.Controller.DriverObject
import CsiOperator.Proofs.Api.Conversation
import CsiOperator.Proofs.Api.Target
import CsiOperator.Proofs.Api.Traffic
import CsiOperator.Proofs.Failure

/-! Syncs of the objects that configure drivers leave what is there as it is, whoever else writes. -/

namespace CsiOperator

/-- The server says that what was asked for does not exist. -/
def ApiFailure.saysAbsent : ApiFailure → Bool
  -- The code of a refusal does not count, so a 404 for another reason does not say so.
  | .refused _ _ reason _ => reason == Api.notFoundReason
  | _ => false

/-- When a request for an object cannot be made, no server has said so. -/
theorem Api.Request.get_error {collection name : String} {cause : ApiFailure}
    (fails : Request.get collection name = .error cause) : ∃ text, cause = .request text := by
  -- The name is checked first, and then the text of the address.
  unfold Request.get at fails
  obtain unnamed | ⟨-, -, fails⟩ := (Failure.bind_error_iff ..).mp fails
  · unfold addressed at unnamed
    split at unnamed
    · cases unnamed
      exact ⟨_, rfl⟩
    · cases unnamed
  · obtain unwritable | ⟨_, -, impossible⟩ := (Failure.bind_error_iff ..).mp fails
    · unfold Target.ofText at unwritable
      split at unwritable
      · cases unwritable
        exact ⟨_, rfl⟩
      · dsimp only at unwritable
        split at unwritable
        · cases unwritable
        · cases unwritable
          exact ⟨_, rfl⟩
    · cases impossible

/-- Looking for an object is one request, if that can be made, whose reply decides. -/
theorem Api.get?_eq (α : Type) [Kind α] (name : String) :
    Api.get? α name = match Request.get (collection (Kind.type α) none) name with
      | .error cause => .done (.error cause)
      | .ok request => .ask request fun reply => .done
        (match reply.object (Kind.read (α := α) (ν := Json.Tree)) with
        | .ok object => .ok (some object)
        | .error cause => if cause.saysAbsent then .ok none else .error cause) := by
  unfold Api.get?
  cases made : Request.get (collection (Kind.type α) none) name with
  | error cause =>
    -- Only what a server says can mean that there is no object.
    obtain ⟨text, rfl⟩ := Request.get_error made
    rfl
  | ok request =>
    refine congrArg (Dialogue.ask request) (funext fun reply => ?_)
    change Dialogue.bind (.done (reply.object (Kind.read (α := α) (ν := Json.Tree)))) _ = _
    rcases reply.object (Kind.read (α := α) (ν := Json.Tree)) with cause | object
    · cases cause with
      | refused status message reason code =>
        by_cases absent : reason == notFoundReason <;>
          simp only [Dialogue.bind, ApiFailure.saysAbsent, absent] <;> rfl
      | _ => rfl
    · rfl

namespace Controller.DriverObject

open Api (Exchange Reply Request)

/-- The path of all objects that configure drivers. -/
def collection : String :=
  "/apis/operator.openshift.io/v1/clustercsidrivers"

/-- The path of the object of a driver. -/
def objectPath (driver : String) : String :=
  collection ++ "/" ++ driver

/-- The request for the object of a driver, if its name can stand in an address. -/
def lookup (driver : String) : Except ApiFailure Request :=
  Request.get collection driver

/-- The request that creates the object of a driver. -/
def creation (driver : String) : Request :=
  -- The name is in the body only, since the object has no path yet.
  ⟨.post, ⟨collection, ""⟩, some "application/json",
    some (Kind.toJson (ClusterCsiDriver.desired driver))⟩

/-- The object in a reply. -/
def found (reply : Reply) : Except ApiFailure ClusterCsiDriver :=
  reply.object (ClusterCsiDriver.read (ν := Json.Tree))

/-- A reply says that there is no object. -/
def saysAbsent (reply : Reply) : Bool :=
  -- A reply that cannot be read does not say so, either.
  match found reply with
  | .ok _ => false
  | .error cause => cause.saysAbsent

/-- A reply with an object does not say that there is none. -/
theorem saysAbsent_of_isOk {reply : Reply} (shown : (found reply).isOk) :
    saysAbsent reply = false := by
  -- Only the failure to read an object can say so.
  rw [saysAbsent]
  split
  · rfl
  · rename_i fails
    rw [fails] at shown
    cases shown

/-- What a sync comes to with the reply to its creation. -/
def created (reply : Reply) : Except Failure Unit :=
  -- Somebody else may have created the object meanwhile, which is as good.
  match found reply with
  | .ok _ => .ok ()
  | .error cause => if cause.code? == some conflictCode then .ok () else .error (.api cause)

/-- A creation succeeds when the reply brings an object or says that there is one. -/
theorem created_ok_iff (reply : Reply) : created reply = .ok () ↔ (found reply).isOk ∨
    ∃ cause, found reply = .error cause ∧ cause.code? = some conflictCode := by
  -- An object has been brought or it has not.
  rw [created, Failure.isOk_iff]
  cases found reply <;> simp

/-- Whatever else the reply to a creation says is its failure. -/
theorem created_error_iff (reply : Reply) (failure : Failure) : created reply = .error failure ↔
    ∃ cause, failure = .api cause ∧ found reply = .error cause ∧
      cause.code? ≠ some conflictCode := by
  rw [created]
  -- An object in the reply is a success, and any other reply has a cause.
  cases found reply with
  | ok object => simp
  | error cause =>
    dsimp only
    split
    · -- The object is there, which is all that is wanted.
      rename_i conflict
      refine ⟨fun fails => (by cases fails), ?_⟩
      rintro ⟨_, -, same, other⟩
      cases same
      exact absurd (beq_iff_eq.mp conflict) other
    · rename_i other
      constructor
      · intro fails
        cases fails
        exact ⟨cause, rfl, rfl, fun conflict => other (beq_iff_eq.mpr conflict)⟩
      · rintro ⟨_, rfl, same, -⟩
        cases same
        rfl

/-- What a sync does with the reply to its lookup. -/
def lookedUp (driver : String) (reply : Reply) : Exchange (Except Failure Unit) :=
  -- Only the lack of an object leads on to a creation.
  match found reply with
  | .ok _ => .done (.ok ())
  | .error cause =>
    if cause.saysAbsent then .ask (creation driver) fun reply => .done (created reply)
    else .done (.error (.api cause))

/-- Creating the object of a driver is one request, which can always be made. -/
theorem create_eq (driver : String) : Api.create (ClusterCsiDriver.desired driver) =
    .ask (creation driver) fun reply => .done (found reply) := rfl

/-- A sync that is told that there is no object creates it. -/
theorem lookedUp_absent (driver : String) {reply : Reply} (absent : saysAbsent reply) :
    lookedUp driver reply = .ask (creation driver) fun reply => .done (created reply) := by
  -- Only a reply without an object says so.
  rw [saysAbsent] at absent
  rw [lookedUp]
  split at absent
  · cases absent
  · rw [if_pos absent]

/-- A sync looks for the object first, if it can. -/
theorem syncDriverObject_eq (driver : String) :
    syncDriverObject driver = match lookup driver with
      | .error cause => .done (.error (.api cause))
      | .ok request => .ask request (lookedUp driver) := by
  -- The reply to the lookup decides whether there is anything to create, and the reply to the
  -- creation is what the sync comes to then.
  unfold syncDriverObject
  rw [Api.get?_eq]
  show Dialogue.bind (match lookup driver with | .error cause => _ | .ok request => _) _ = _
  cases lookup driver with
  | error cause => rfl
  | ok request =>
    refine congrArg (Dialogue.ask request) (funext fun reply => ?_)
    dsimp only
    rw [lookedUp, show Reply.object (Kind.read (α := ClusterCsiDriver) (ν := Json.Tree)) reply =
      found reply from rfl]
    cases found reply with
    | ok object => rfl
    | error cause =>
      cases absent : cause.saysAbsent with
      | false =>
        simp only [absent, Bool.false_eq_true, if_false]
        rfl
      | true =>
        simp only [absent, if_true]
        show Dialogue.bind (Api.create (ClusterCsiDriver.desired driver)) _ = _
        rw [create_eq]
        refine congrArg (Dialogue.ask (creation driver)) (funext fun reply => ?_)
        simp only [created, Dialogue.bind]
        cases found reply with
        | ok object => rfl
        | error cause =>
          cases exists_already : cause.code? == some conflictCode <;>
            simp only [exists_already] <;> rfl

/-- The path that a lookup addresses is that of the object, up to a mark that ends it. -/
theorem lookup_path {driver : String} {request : Request} (made : lookup driver = .ok request) :
    request.method = .get ∧
      request.target.path.toList = (objectPath driver).toList.takeWhile Api.Target.staysInPath := by
  -- The path is what is left of the text that is written for it.
  obtain ⟨-, -, made⟩ := (Failure.bind_ok_iff ..).mp made
  obtain ⟨target, written, made⟩ := (Failure.bind_ok_iff ..).mp made
  obtain rfl := (Failure.pure_ok_iff ..).mp made
  exact ⟨rfl, Api.Target.path_toList_of_ofText written⟩

/-- The name that an object gives itself. -/
def nameOf (object : Json) : Option String :=
  (object.get? "metadata").bind fun metadata => (metadata.get? "name").bind Json.text?

/-- What is created for a driver has its name. -/
theorem nameOf_desired (driver : String) :
    nameOf (Kind.toJson (ClusterCsiDriver.desired driver)) = some driver := rfl

/-- How far a sync has come. -/
structure Syncing where
  /-- The driver. -/
  driver : String
  /-- The requests to which there have been replies, and these. -/
  exchanged : List (Request × Reply)
  /-- The reply that is on its way. -/
  answer : Option Reply
  /-- What is left. -/
  rest : Exchange (Except Failure Unit)

/-- The requests that a sync has sent. -/
def Syncing.sent (s : Syncing) : List Request :=
  -- A request that waits for its reply has been sent, too.
  s.exchanged.map Prod.fst ++
    match s.rest with
    | .ask request _ => [request]
    | .done _ => []

/-- A sync has been told that there is no object. -/
def Syncing.toldAbsent (s : Syncing) : Bool :=
  -- The lookup comes first, so its reply is the first one.
  match s.exchanged with
  | (_, reply) :: _ => saysAbsent reply
  | [] => false

/-- The objects of a server by their paths, and the syncs that have begun, which are told apart by
numbers. An object is what it was made by its last writer, without what the server adds of its own. -/
structure World where
  /-- The objects. -/
  objects : String → Option Json
  /-- The syncs. -/
  syncs : Nat → Option Syncing

namespace World

/-- A sync goes on to where it waits again or ends. -/
def suspend (w : World) (i : Nat) (s : Syncing) : World :=
  { w with syncs := Function.update w.syncs i (some s) }

/-- A sync has begun and waits for a reply. -/
def UnderWay (w : World) (i : Nat) : Prop :=
  ∃ s request next, w.syncs i = some s ∧ s.rest = .ask request next

end World

/-- What happens at the server or to a sync. -/
inductive Action where
  /-- A sync begins. -/
  | begin (i : Nat) (driver : String)
  /-- The server serves the request of a sync. -/
  | serve (i : Nat)
  /-- The reply arrives. -/
  | deliver (i : Nat)
  /-- Another client creates an object, changes or deletes it. -/
  | write (path : String) (content : Option Json)

/-- What a server may do with a request, what it replies, and what it has afterwards. -/
inductive Serves (objects : String → Option Json) (request : Request) (reply : Reply) :
    (String → Option Json) → Prop
  /-- It has the object, and shows it or not. -/
  | looked : request.method = .get → (objects request.target.path).isSome →
    Serves objects request reply objects
  /-- It has no object to show, or fails to show it. -/
  | unseen {cause : ApiFailure} : request.method = .get → found reply = .error cause →
    Serves objects request reply objects
  /-- It creates the object; the reply may get lost. -/
  | created {object : Json} {name : String} : request.method = .post →
    request.body = some object → nameOf object = some name →
    objects (request.target.path ++ "/" ++ name) = none →
    Serves objects request reply
      (Function.update objects (request.target.path ++ "/" ++ name) (some object))
  /-- It has an object of the name already, and says so. -/
  | existing {object : Json} {name : String} {cause : ApiFailure} : request.method = .post →
    request.body = some object → nameOf object = some name →
    (objects (request.target.path ++ "/" ++ name)).isSome →
    found reply = .error cause → cause.code? = some conflictCode →
    Serves objects request reply objects
  /-- It creates nothing for another reason. -/
  | failed {cause : ApiFailure} : request.method = .post → found reply = .error cause →
    cause.code? ≠ some conflictCode → Serves objects request reply objects

/-- One action. -/
inductive Step (w : World) : Action → World → Prop
  /-- A sync begins. -/
  | begin {i : Nat} (driver : String) : w.syncs i = none →
    Step w (.begin i driver) (w.suspend i ⟨driver, [], none, syncDriverObject driver⟩)
  /-- The request that a sync has sent is served. -/
  | serve {i : Nat} {driver : String} {exchanged : List (Request × Reply)} {request : Request}
    {next : Reply → Exchange (Except Failure Unit)} {reply : Reply}
    {objects : String → Option Json} :
    w.syncs i = some ⟨driver, exchanged, none, .ask request next⟩ →
    Serves w.objects request reply objects →
    Step w (.serve i)
      ({ w with objects }.suspend i ⟨driver, exchanged, some reply, .ask request next⟩)
  /-- A sync goes on with the reply to its request. -/
  | deliver {i : Nat} {driver : String} {exchanged : List (Request × Reply)} {request : Request}
    {next : Reply → Exchange (Except Failure Unit)} {reply : Reply} :
    w.syncs i = some ⟨driver, exchanged, some reply, .ask request next⟩ →
    Step w (.deliver i) (w.suspend i ⟨driver, exchanged ++ [(request, reply)], none, next reply⟩)
  /-- Another client does what it wants to. -/
  | write (path : String) (content : Option Json) :
    Step w (.write path content) { w with objects := Function.update w.objects path content }

/-- Any number of actions. -/
abbrev Run (first : World) : List Action → World → Prop :=
  Api.Run Step first

/-- An object existed at a path at some moment of a run when a sync was under way. -/
def Existed (first : World) (actions : List Action) (last : World) (i : Nat) (path : String) :
    Prop :=
  -- The run is parted at that moment, when the sync has begun and not ended.
  ∃ before after mid, before ++ after = actions ∧ Run first before mid ∧ Run mid after last ∧
    mid.UnderWay i ∧ (mid.objects path).isSome

section Existence

variable {first w w' : World} {actions : List Action} {action : Action} {i : Nat} {path : String}

/-- What exists while a sync is under way has existed then. -/
theorem Existed.now (run : Run first actions w) (underWay : w.UnderWay i)
    (there : (w.objects path).isSome) : Existed first actions w i path :=
  ⟨actions, [], w, List.append_nil actions, run, .nil, underWay, there⟩

/-- What has existed has done so whatever comes later. -/
theorem Existed.later (existed : Existed first actions w i path) (step : Step w action w') :
    Existed first (actions ++ [action]) w' i path := by
  -- One more action at the end leaves the moment where it was.
  obtain ⟨before, after, mid, rfl, run, rest, moment⟩ := existed
  exact ⟨before, after ++ [action], mid, (List.append_assoc ..).symm, run, rest.snoc step, moment⟩

end Existence

/-- How far a sync can have come, and what has to have existed for that. -/
inductive Stage (existed : String → Prop) : Syncing → Prop
  /-- No lookup can be made. -/
  | unaddressed {driver : String} {cause : ApiFailure} : lookup driver = .error cause →
    Stage existed ⟨driver, [], none, .done (.error (.api cause))⟩
  /-- It looks for the object. -/
  | looking {driver : String} {request : Request} {answer : Option Reply} :
    lookup driver = .ok request →
    (∀ reply ∈ answer, (found reply).isOk → existed request.target.path) →
    Stage existed ⟨driver, [], answer, .ask request (lookedUp driver)⟩
  /-- It has found the object. -/
  | there {driver : String} {request : Request} {reply : Reply} : lookup driver = .ok request →
    (found reply).isOk → existed request.target.path →
    Stage existed ⟨driver, [(request, reply)], none, .done (.ok ())⟩
  /-- It has not got to know whether there is an object. -/
  | unseen {driver : String} {request : Request} {reply : Reply} {cause : ApiFailure} :
    lookup driver = .ok request → found reply = .error cause → cause.saysAbsent = false →
    Stage existed ⟨driver, [(request, reply)], none, .done (.error (.api cause))⟩
  /-- It creates the object, since there is none. -/
  | creating {driver : String} {request : Request} {absent : Reply} {answer : Option Reply} :
    lookup driver = .ok request → saysAbsent absent →
    (∀ reply ∈ answer, created reply = .ok () → existed (objectPath driver)) →
    Stage existed ⟨driver, [(request, absent)], answer,
      .ask (creation driver) fun reply => .done (created reply)⟩
  /-- It has created the object, or has tried to. -/
  | ended {driver : String} {request : Request} {absent reply : Reply} :
    lookup driver = .ok request → saysAbsent absent →
    (created reply = .ok () → existed (objectPath driver)) →
    Stage existed ⟨driver, [(request, absent), (creation driver, reply)], none,
      .done (created reply)⟩

namespace Stage

variable {existed existed' : String → Prop} {s : Syncing} {driver : String}
  {exchanged : List (Request × Reply)} {request : Request} {reply : Reply}
  {next : Reply → Exchange (Except Failure Unit)} {objects objects' : String → Option Json}

/-- Every sync begins at a stage. -/
theorem begin (driver : String) : Stage existed ⟨driver, [], none, syncDriverObject driver⟩ := by
  rw [syncDriverObject_eq]
  -- Nothing but the name decides whether a lookup can be made.
  cases made : lookup driver with
  | error cause => exact .unaddressed made
  | ok request => exact .looking made (by simp)

/-- A sync stays where it is when more has existed. -/
theorem mono (stage : Stage existed s) (more : ∀ path, existed path → existed' path) :
    Stage existed' s := by
  -- A stage asks only that objects have existed, never that none has.
  cases stage with
  | unaddressed fails => exact .unaddressed fails
  | looking made there => exact .looking made fun reply came ok => more _ (there reply came ok)
  | there made present was => exact .there made present (more _ was)
  | unseen made fails present => exact .unseen made fails present
  | creating made absent there =>
    exact .creating made absent fun reply came ok => more _ (there reply came ok)
  | ended made absent there => exact .ended made absent fun ok => more _ (there ok)

/-- A request that is served changes nothing that exists, and makes at most the object of the driver what
it is to be. -/
theorem serve_objects (stage : Stage existed ⟨driver, exchanged, none, .ask request next⟩)
    (serves : Serves objects request reply objects') (path : String) :
    objects' path = objects path ∨ objects path = none ∧ path = objectPath driver ∧
      objects' path = some (Kind.toJson (ClusterCsiDriver.desired driver)) := by
  -- A lookup changes nothing, and a creation only what is not there.
  cases stage with
  | looking made _ =>
    -- A lookup changes nothing.
    have method := (lookup_path made).1
    cases serves with
    | looked | unseen => exact .inl rfl
    | created asks | existing asks | failed asks => rw [asks] at method; cases method
  | creating made absent _ =>
    cases serves with
    | existing | failed => exact .inl rfl
    | looked asks | unseen asks => cases asks
    | created _ body named free =>
      -- What is created is what the body of the request says, under the name that it gives itself.
      obtain rfl := Option.some.inj body
      obtain rfl := Option.some.inj ((nameOf_desired driver).symm.trans named)
      by_cases here : path = objectPath driver
      · subst here
        exact .inr ⟨free, rfl, Function.update_self ..⟩
      · exact .inl (Function.update_of_ne here ..)

/-- A request that is served brings a sync its reply. -/
theorem serve (stage : Stage existed ⟨driver, exchanged, none, .ask request next⟩)
    (serves : Serves objects request reply objects')
    (before : ∀ path, (objects path).isSome → existed path)
    (after : ∀ path, (objects' path).isSome → existed path) :
    Stage existed ⟨driver, exchanged, some reply, .ask request next⟩ := by
  -- What the reply says of the object holds at the moment when it is given.
  cases stage with
  | looking made _ =>
    refine .looking made fun r came shown => ?_
    obtain rfl := Option.some.inj came
    -- An object is shown only when there is one.
    have method := (lookup_path made).1
    cases serves with
    | looked _ there => exact before _ there
    | unseen _ nothing => rw [nothing] at shown; cases shown
    | created asks | existing asks | failed asks => rw [asks] at method; cases method
  | creating made absent _ =>
    refine .creating made absent fun r came ok => ?_
    obtain rfl := Option.some.inj came
    cases serves with
    | looked asks | unseen asks => cases asks
    | created _ body named free =>
      -- The object is there from now on.
      obtain rfl := Option.some.inj body
      obtain rfl := Option.some.inj ((nameOf_desired driver).symm.trans named)
      exact after _ (by rw [objectPath]; simp [creation])
    | existing _ body named there =>
      -- The object has been there before.
      obtain rfl := Option.some.inj body
      obtain rfl := Option.some.inj ((nameOf_desired driver).symm.trans named)
      exact before _ there
    | failed _ nothing other =>
      -- No such reply is taken for a success.
      simp [created, nothing, other] at ok

/-- A sync goes on to its next stage with the reply to its request. -/
theorem deliver (stage : Stage existed ⟨driver, exchanged, some reply, .ask request next⟩) :
    Stage existed ⟨driver, exchanged ++ [(request, reply)], none, next reply⟩ := by
  -- The reply to the lookup decides about a creation, and any other reply is the last one.
  cases stage with
  | looking made there =>
    rw [lookedUp]
    cases brought : found reply with
    | ok object =>
      have shown : (found reply).isOk := by rw [brought]; rfl
      exact .there made shown (there reply rfl shown)
    | error cause =>
      -- What the server says decides whether the object is to be created.
      by_cases absent : cause.saysAbsent
      · simp only [absent, if_true]
        refine .creating made ?_ (fun _ none => by cases none)
        simp only [saysAbsent, brought, absent]
      · simp only [absent]
        exact .unseen made brought (Bool.eq_false_iff.mpr absent)
  | creating made absent there => exact .ended made absent (there reply rfl)

/-- A sync sends its lookup, and its creation only once it has been told that there is no object. -/
theorem sent (stage : Stage existed s) : s.sent = match lookup s.driver with
    | .error _ => []
    | .ok request => request :: if s.toldAbsent then [creation s.driver] else [] := by
  -- What has been sent is given by the replies that have come, and by what is waited for.
  cases stage with
  | unaddressed fails => simp only [fails, Syncing.sent, List.map_nil, List.append_nil]
  | looking made => simp [made, Syncing.sent, Syncing.toldAbsent]
  | there made shown =>
    simp [made, saysAbsent_of_isOk shown, Syncing.sent, Syncing.toldAbsent]
  | unseen made fails present =>
    simp [made, fails, present, saysAbsent, Syncing.sent, Syncing.toldAbsent]
  | creating made absent => simp [made, absent, Syncing.sent, Syncing.toldAbsent]
  | ended made absent => simp [made, absent, Syncing.sent, Syncing.toldAbsent]

/-- A sync succeeds when its last reply brings an object or says that there is one, and then there has
been one. -/
theorem succeeded (stage : Stage existed s) (ended : s.rest = .done (.ok ())) :
    (∃ request reply, s.exchanged.getLast? = some (request, reply) ∧
      ((found reply).isOk ∨ request.method = .post ∧
        ∃ cause, found reply = .error cause ∧ cause.code? = some conflictCode)) ∧
      ∃ path, existed path ∧ (path = objectPath s.driver ∨
        path.toList = (objectPath s.driver).toList.takeWhile Api.Target.staysInPath) := by
  -- Only two stages are successes: the lookup has shown the object, or the creation has gone well.
  cases stage with
  | unaddressed | unseen | looking | creating => cases ended
  | there made shown was =>
    exact ⟨⟨_, _, rfl, .inl shown⟩, _, was, .inr (lookup_path made).2⟩
  | ended made absent was =>
    have ok := Dialogue.done.inj ended
    have brings := (created_ok_iff _).mp ok
    exact ⟨⟨_, _, rfl, brings.imp_right fun conflicts => ⟨rfl, conflicts⟩⟩, _, was ok, .inl rfl⟩

/-- A sync fails when its lookup cannot be made, or else with the failure of its last request. -/
theorem failed {failure : Failure} (stage : Stage existed s)
    (ended : s.rest = .done (.error failure)) : ∃ cause, failure = .api cause ∧
      (lookup s.driver = .error cause ∨ ∃ request reply,
        s.exchanged.getLast? = some (request, reply) ∧ found reply = .error cause ∧
        (request.method = .get ∧ cause.saysAbsent = false ∨
          request.method = .post ∧ cause.code? ≠ some conflictCode)) := by
  -- Either there was no lookup, or the last reply has a cause.
  cases stage with
  | there | looking | creating => cases ended
  | unaddressed fails =>
    cases ended
    exact ⟨_, rfl, .inl fails⟩
  | unseen made fails present =>
    cases ended
    exact ⟨_, rfl, .inr ⟨_, _, rfl, fails, .inl ⟨(lookup_path made).1, present⟩⟩⟩
  | ended made absent was =>
    obtain ⟨cause, rfl, fails, other⟩ := (created_error_iff ..).mp (Dialogue.done.inj ended)
    exact ⟨cause, rfl, .inr ⟨_, _, rfl, fails, .inr ⟨rfl, other⟩⟩⟩

end Stage

variable {first w w' : World} {actions : List Action} {action : Action}

/-- Every sync has come as far as what has existed allows. -/
def Staged (first : World) (actions : List Action) (w : World) : Prop :=
  ∀ i s, w.syncs i = some s → Stage (Existed first actions w i) s

/-- A sync that is suspended has come where it is suspended, and the others stay where they are. -/
theorem Staged.suspend {i : Nat} {s : Syncing} {objects : String → Option Json}
    (staged : Staged first actions w)
    (step : Step w action ({ w with objects }.suspend i s))
    (stage : Stage (Existed first (actions ++ [action]) ({ w with objects }.suspend i s) i) s) :
    Staged first (actions ++ [action]) ({ w with objects }.suspend i s) := by
  intro j other pending
  -- More may have existed for the others by now, which leaves them where they are.
  by_cases same : j = i
  · subst same
    obtain rfl : s = other := by simpa [World.suspend] using pending
    exact stage
  · have waiting : w.syncs j = some other := by simpa [World.suspend, same] using pending
    exact (staged j other waiting).mono fun path existed => existed.later step

/-- One action leaves every sync at a stage. -/
theorem Staged.step (staged : Staged first actions w) (run : Run first actions w)
    (step : Step w action w') : Staged first (actions ++ [action]) w' := by
  -- A sync moves only by its own actions, and what has existed by then goes on to have existed.
  have run' := run.snoc step
  cases step with
  | begin driver free => exact staged.suspend (.begin driver free) (.begin driver)
  | @serve i driver exchanged request next reply objects waits serves =>
    refine staged.suspend (.serve waits serves) ?_
    have stage := (staged i _ waits).mono fun path existed => existed.later (.serve waits serves)
    refine stage.serve serves (fun path there => ?_) (fun path there => ?_)
    · -- What is there before the request is served is so while the sync waits.
      exact (Existed.now run ⟨_, _, _, waits, rfl⟩ there).later (.serve waits serves)
    · -- The sync still waits for the reply.
      refine Existed.now run' ⟨_, _, _, Function.update_self .., rfl⟩ there
  | @deliver i driver exchanged request next reply waits =>
    refine staged.suspend (.deliver waits) ?_
    exact ((staged i _ waits).mono fun path existed => existed.later (.deliver waits)).deliver
  | write path content =>
    intro i s pending
    exact (staged i s pending).mono fun path existed => existed.later (.write ..)

/-- Any run leaves every sync at a stage. -/
theorem Staged.of_run (idle : ∀ i, first.syncs i = none) (run : Run first actions w) :
    Staged first actions w := by
  -- At first no sync has begun.
  induction run with
  | nil =>
    intro i s pending
    rw [idle i] at pending
    cases pending
  | snoc run step ih => exact ih.step run step

/-- Another client acts. -/
def Action.foreign : Action → Bool
  -- Only a foreign write changes objects without a sync.
  | .write _ _ => true
  | _ => false

/--
Syncs leave what is there as it is, and tell what has become of their objects.

The server refuses to create what it has already, and other clients create objects, change and delete
them between any two steps of any syncs. What is served for a sync leaves every object alone, and puts
at most what its driver is to have where nothing is. A sync asks for the object once, if its name can
stand in an address, and creates it only when told that there is none. It succeeds only if the object
has existed while it was under way, and fails with the failure of its last request.
-/
theorem syncs_only_create {first w : World} {actions : List Action}
    (idle : ∀ i, first.syncs i = none) (run : Run first actions w) :
    -- Nothing that exists is changed or deleted, except by others.
    (∀ action w', Step w action w' → action.foreign = false → ∀ path,
      w'.objects path = w.objects path ∨ w.objects path = none ∧ ∃ i s, action = .serve i ∧
        w.syncs i = some s ∧ path = objectPath s.driver ∧
        w'.objects path = some (Kind.toJson (ClusterCsiDriver.desired s.driver))) ∧
    ∀ i s, w.syncs i = some s →
      -- A sync sends its lookup, and its creation once it has been told that there is no object.
      (s.sent = match lookup s.driver with
        | .error _ => []
        | .ok request => request :: if s.toldAbsent then [creation s.driver] else []) ∧
      -- It succeeds when it has got an object or a conflict, and then the object has existed.
      (s.rest = .done (.ok ()) →
        (∃ request reply, s.exchanged.getLast? = some (request, reply) ∧
          ((found reply).isOk ∨ request.method = .post ∧
            ∃ cause, found reply = .error cause ∧ cause.code? = some conflictCode)) ∧
        ∃ path, Existed first actions w i path ∧ (path = objectPath s.driver ∨
          path.toList = (objectPath s.driver).toList.takeWhile Api.Target.staysInPath)) ∧
      -- Otherwise it fails with the failure of its last request.
      ∀ failure, s.rest = .done (.error failure) → ∃ cause, failure = .api cause ∧
        (lookup s.driver = .error cause ∨ ∃ request reply,
          s.exchanged.getLast? = some (request, reply) ∧ found reply = .error cause ∧
          (request.method = .get ∧ cause.saysAbsent = false ∨
            request.method = .post ∧ cause.code? ≠ some conflictCode)) := by
  have staged : Staged first actions w := .of_run idle run
  refine ⟨fun action w' step own path => ?_, fun i s pending => ?_⟩
  · cases step with
    | begin | deliver => exact .inl rfl
    | write => cases own
    | serve waits serves =>
      obtain same | ⟨free, rfl, made⟩ := (staged _ _ waits).serve_objects serves path
      · exact .inl same
      · exact .inr ⟨free, _, _, rfl, waits, rfl, made⟩
  · have stage := staged i s pending
    exact ⟨stage.sent, stage.succeeded, fun failure => stage.failed⟩

/-- Another client creates the object between the two requests of a sync, which leaves it alone. -/
theorem syncs_only_create_race :
    let first : World := ⟨fun _ => none, fun _ => none⟩
    let actions : List Action := [.begin 0 "ebs", .serve 0, .deliver 0,
      .write (objectPath "ebs") (some (.text "other")), .serve 0, .deliver 0]
    ∃ w s, (∀ i, first.syncs i = none) ∧ Run first actions w ∧ w.syncs 0 = some s ∧
      s.rest = .done (.ok ()) ∧ s.sent.map (·.method) = [.get, .post] ∧
      Existed first actions w 0 (objectPath "ebs") ∧
      w.objects (objectPath "ebs") = some (.text "other") := by
  -- The world is taken through the actions one by one, as the two requests are served in different
  -- worlds.
  intro first actions
  let looks : Request := ⟨.get, ⟨objectPath "ebs", ""⟩, none, none⟩
  have begins : syncDriverObject "ebs" = .ask looks (lookedUp "ebs") := syncDriverObject_eq "ebs"
  have creates := lookedUp_absent "ebs" (show saysAbsent Api.Server.missing by decide +kernel)
  -- The lookup is served before the other client writes, and the creation after that.
  have begun := (Api.Run.nil : Run first [] first).snoc (@Step.begin _ 0 "ebs" rfl)
  rw [begins] at begun
  have looked := begun.snoc
    (@Step.serve _ 0 "ebs" [] looks (lookedUp "ebs") Api.Server.missing _ rfl (.unseen rfl rfl))
  have told := looked.snoc
    (@Step.deliver _ 0 "ebs" [] looks (lookedUp "ebs") Api.Server.missing rfl)
  rw [creates] at told
  have written := told.snoc (.write (objectPath "ebs") (some (.text "other")))
  have refused := written.snoc
    (@Step.serve _ 0 "ebs" [(looks, Api.Server.missing)] (creation "ebs")
      (fun reply => .done (created reply)) (.answered 409 "exists") _ rfl
      (.existing rfl rfl (nameOf_desired "ebs") rfl rfl (by decide +kernel)))
  have ended := refused.snoc
    (@Step.deliver _ 0 "ebs" [(looks, Api.Server.missing)] (creation "ebs")
      (fun reply => .done (created reply)) (.answered 409 "exists") rfl)
  obtain ⟨path, existed, place⟩ :=
    (((syncs_only_create (fun _ => rfl) ended).2 0 _ rfl).2.1 rfl).2
  -- The name has no mark in it, so that there is only one path.
  obtain rfl : path = objectPath "ebs" := by
    refine place.elim id fun cut => String.toList_inj.mp (cut.trans ?_)
    decide +kernel
  exact ⟨_, _, fun _ => rfl, ended, rfl, rfl, rfl, existed, rfl⟩

/-- No lookup is sent for a name with a blank, and nothing is created after a 404 that gives no reason. -/
theorem creation_unsent :
    let nameless := Api.converse (fun _ => Api.Server.missing) (syncDriverObject "a b")
    let reasonless := Api.converse (fun _ => .answered 404 "gone") (syncDriverObject "ebs")
    nameless.2 = [] ∧ nameless.1.isOk = false ∧ reasonless.2.map (·.method) = [.get] ∧
      ∃ cause, reasonless.1 = .error (.api cause) ∧ cause.code? = some 404 := by
  -- Both conversations are evaluated as far as they go.
  intro nameless reasonless
  refine ⟨rfl, rfl, rfl, Reply.refusal 404 "gone", rfl, ?_⟩
  decide +kernel

end Controller.DriverObject

end CsiOperator
