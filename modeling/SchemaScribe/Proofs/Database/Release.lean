import SchemaScribe.Database.Session

/-!
# Sessions let go of what they hold

The events of a session are checked by what they do to the source: an engine that was made is held until it is
disposed of, a connection until it is closed, and no event is accepted out of order or twice (`Held.after`). A
session keeps a true account of what it holds (`Session.held`): each step of opening and the closing keep to it.
So whatever fails while a catalog is read, everything is let go of, the connection before its engine.

Opening lets go of everything only where it expects a failure. Any other failure to connect or to inspect leaves
the engine, and a connection that was opened, behind (`Leaks`, `introspect_released`).
-/

namespace SchemaScribe.Database

open SchemaScribe.Connection

/-! ## What is held of a source -/

/-- What is held of a source. -/
structure Held where
  engine : Bool := false
  connection : Bool := false
deriving DecidableEq, Repr

/-- What is held after an event, if the event may come next. What fails is not held. -/
def Held.after (source : Source) (h : Held) : Event → Option Held
  | .create _ _ => if h.engine then none else some { h with engine := source.createFault.isNone }
  | .connect =>
    if h.engine && !h.connection then some { h with connection := source.connectFault.isNone } else none
  | .inspect => if h.connection then some h else none
  | .closeConnection => if h.connection then some { h with connection := false } else none
  | .dispose => if h.engine && !h.connection then some { h with engine := false } else none

/-- What is held after events, if they may come in this order. -/
def heldAfter (source : Source) (h : Held) (events : List Event) : Option Held :=
  events.foldlM (Held.after source) h

variable {source : Source}

theorem heldAfter_append (h : Held) (events more : List Event) :
    heldAfter source h (events ++ more) =
      (heldAfter source h events).bind fun h' => heldAfter source h' more := by
  unfold heldAfter
  rw [List.foldlM_append]
  rfl

/-! ## What was made and what was let go of -/

/-- Whether an event is the making of an engine. -/
def Event.isCreate : Event → Bool
  | .create _ _ => true
  | _ => false

/-- The engines that were made. -/
def enginesMade (source : Source) (events : List Event) : Nat :=
  if source.createFault.isNone then events.countP (·.isCreate) else 0

/-- The connections that were opened. -/
def connectionsMade (source : Source) (events : List Event) : Nat :=
  if source.connectFault.isNone then events.count .connect else 0

theorem enginesMade_cons (event : Event) (rest : List Event) :
    enginesMade source (event :: rest) = enginesMade source [event] + enginesMade source rest := by
  unfold enginesMade
  rw [← List.singleton_append, List.countP_append]
  split
  · rfl
  · rfl

theorem connectionsMade_cons (event : Event) (rest : List Event) :
    connectionsMade source (event :: rest) = connectionsMade source [event] + connectionsMade source rest := by
  unfold connectionsMade
  rw [← List.singleton_append, List.count_append]
  split
  · rfl
  · rfl

/-- What is held before an event or made by it is let go of by it or held after it. -/
theorem after_counts {h mid : Held} {event : Event} (hstep : h.after source event = some mid) :
    enginesMade source [event] + h.engine.toNat = [event].count .dispose + mid.engine.toNat ∧
      connectionsMade source [event] + h.connection.toNat =
        [event].count .closeConnection + mid.connection.toNat := by
  obtain ⟨engine, connection⟩ := h
  unfold Held.after at hstep
  unfold enginesMade connectionsMade
  cases event with
  | create url arguments =>
    cases engine with
    | false =>
      cases hstep
      cases hfault : source.createFault <;> simp [Event.isCreate]
    | true => cases hstep
  | connect =>
    cases engine with
    | false => cases hstep
    | true =>
      cases connection with
      | false =>
        cases hstep
        cases hfault : source.connectFault <;> simp [Event.isCreate]
      | true => cases hstep
  | inspect =>
    cases connection with
    | false => cases hstep
    | true =>
      cases hstep
      simp [Event.isCreate]
  | closeConnection =>
    cases connection with
    | false => cases hstep
    | true =>
      cases hstep
      simp [Event.isCreate]
  | dispose =>
    cases engine with
    | false => cases hstep
    | true =>
      cases connection with
      | false =>
        cases hstep
        simp [Event.isCreate]
      | true => cases hstep

/-- What was held at first or made is let go of once or held in the end. -/
theorem heldAfter_counts {h h' : Held} {events : List Event} (hrun : heldAfter source h events = some h') :
    enginesMade source events + h.engine.toNat = events.count .dispose + h'.engine.toNat ∧
      connectionsMade source events + h.connection.toNat =
        events.count .closeConnection + h'.connection.toNat := by
  induction events generalizing h with
  | nil =>
    cases hrun
    simp [enginesMade, connectionsMade]
  | cons event rest ih =>
    unfold heldAfter at hrun
    rw [List.foldlM_cons] at hrun
    obtain ⟨mid, hstep, hrest⟩ := Option.bind_eq_some_iff.mp hrun
    obtain ⟨hengine, hconnection⟩ := after_counts hstep
    obtain ⟨hengines, hconnections⟩ := ih hrest
    have hcount : ∀ e, (event :: rest).count e = [event].count e + rest.count e := fun e => by
      rw [← List.singleton_append, List.count_append]
    rw [enginesMade_cons, connectionsMade_cons, hcount, hcount]
    omega

/-- **Everything is let go of**: the events come in order, so a connection is closed before its engine is disposed
of, and in the end each engine that was made has been disposed of once and each connection that was opened closed
once. -/
structure Released (source : Source) (events : List Event) : Prop where
  order : heldAfter source {} events = some {}
  engines : events.count .dispose = enginesMade source events
  connections : events.count .closeConnection = connectionsMade source events

theorem released_of_heldAfter {events : List Event} (h : heldAfter source {} events = some {}) :
    Released source events := by
  obtain ⟨hengines, hconnections⟩ := heldAfter_counts h
  exact ⟨h, hengines.symm, hconnections.symm⟩

/-! ## The account of a session -/

namespace Session

/-- What a session takes itself to hold. -/
def held (s : Session) : Held := ⟨s.engine, s.connection⟩

/-- **Steps that keep to the account**: each may come next, and what it changes is what it does to the source. -/
def Faithful (source : Source) : Session → List (Event × (Session → Session) × Option SourceFault) → Prop
  | _, [] => True
  | s, (event, change, fault) :: rest =>
    s.held.after source event = some (if fault.isNone then (change s).held else s.held) ∧
      (fault = none → Faithful source (change s) rest)

/-- Steps that keep to the account keep it true, also if one of them fails. -/
theorem take_held {steps : List (Event × (Session → Session) × Option SourceFault)} {s : Session}
    (done : List Event) (hdone : heldAfter source {} done = some s.held) (hsteps : Faithful source s steps) :
    heldAfter source {} (s.take done steps).2.1 = some (s.take done steps).1.held := by
  induction steps generalizing s done with
  | nil => exact hdone
  | cons step rest ih =>
    obtain ⟨event, change, fault⟩ := step
    obtain ⟨hafter, hrest⟩ := hsteps
    have hnext : heldAfter source {} (done ++ [event]) =
        some (if fault.isNone then (change s).held else s.held) := by
      rw [heldAfter_append, hdone]
      show (heldAfter source s.held [event]) = _
      unfold heldAfter
      rw [List.foldlM_cons, hafter]
      rfl
    cases fault with
    | none => exact ih (done ++ [event]) hnext (hrest rfl)
    | some _ => exact hnext

/-- The steps of opening keep to the account. -/
theorem openSteps_faithful (source : Source) (d : Descriptor) (url : Url) (timeout : Nat) :
    Faithful source ⟨d, false, false, false⟩ (openSteps source url timeout) := by
  refine ⟨?_, fun hcreate => ⟨?_, fun hconnect => ⟨?_, fun _ => trivial⟩⟩⟩
  · cases hfault : source.createFault with
    | none => simp [Held.after, held, hfault]
    | some _ => simp [Held.after, held, hfault]
  · cases hfault : source.connectFault with
    | none => simp [Held.after, held, hfault]
    | some _ => simp [Held.after, held, hfault]
  · simp [Held.after, held]

/-- Closing lets go of whatever is held. -/
theorem close_held (s : Session) : heldAfter source s.held s.close.2 = some {} := by
  unfold close
  cases hengine : s.engine with
  | false =>
    cases hconnection : s.connection with
    | false => simp [heldAfter, held, hengine, hconnection]
    | true => simp [heldAfter, Held.after, held, hengine, hconnection]
  | true =>
    cases hconnection : s.connection with
    | false => simp [heldAfter, Held.after, held, hengine, hconnection]
    | true => simp [heldAfter, Held.after, held, hengine, hconnection]

/-- What opening meets and holds when its steps are over. -/
theorem take_openSteps (s : Session) (source : Source) (url : Url) (timeout : Nat) (hs : s.held = {}) :
    let left := s.take [] (openSteps source url timeout)
    left.2.2 = source.createFault.or (source.connectFault.or source.inspectFault) ∧
      left.1.held = ⟨source.createFault.isNone, source.createFault.isNone && source.connectFault.isNone⟩ := by
  unfold openSteps
  cases hcreate : source.createFault with
  | some _ => exact ⟨rfl, hs⟩
  | none =>
    cases hconnect : source.connectFault with
    | some _ => exact ⟨rfl, congrArg (Held.mk true) (congrArg Held.connection hs)⟩
    | none =>
      cases hinspect : source.inspectFault with
      | some _ => exact ⟨rfl, rfl⟩
      | none => exact ⟨rfl, rfl⟩

end Session

/-! ## What is left behind -/

/-- Whether opening expects a failure. -/
def SourceFault.isExpected (fault : SourceFault) : Bool := fault.kind.isDatabase || fault.kind = .missingDriver

/-- **Something is left behind**: an engine is made, and connecting or inspecting then fails in a way that opening
does not expect. -/
def Leaks (d : Descriptor) (source : Source) : Prop :=
  (∃ url, d.toUrl = .ok url) ∧ source.createFault = none ∧
    ∃ fault, source.connectFault.or source.inspectFault = some fault ∧ fault.isExpected = false

/-- The failure that opening meets decides whether something is left behind. -/
theorem leaks_iff {d : Descriptor} {url : Url} (hurl : d.toUrl = .ok url) {met : Option SourceFault}
    (hmet : met = source.createFault.or (source.connectFault.or source.inspectFault)) :
    Leaks d source ↔ source.createFault = none ∧ ∃ fault, met = some fault ∧ fault.isExpected = false := by
  subst hmet
  refine ⟨fun ⟨_, hcreate, hfault⟩ => ⟨hcreate, ?_⟩, fun ⟨hcreate, hfault⟩ => ⟨⟨url, hurl⟩, hcreate, ?_⟩⟩
  · rwa [hcreate, Option.none_or]
  · rwa [hcreate, Option.none_or] at hfault

/-- **What opening leaves**: the session holds what its events leave. If it could not be opened, that is nothing or
what is left behind. -/
structure Accounted (d : Descriptor) (source : Source) (opened : Session × List Event × Except OpenError Unit) :
    Prop where
  held : heldAfter source {} opened.2.1 = some opened.1.held
  ok : opened.2.2 = .ok () → ¬ Leaks d source
  error : ∀ error, opened.2.2 = .error error →
    opened.1.held = {} ∧ ¬ Leaks d source ∨
      opened.1.held = ⟨true, source.connectFault.isNone⟩ ∧ Leaks d source

theorem connect_accounted (d : Descriptor) (source : Source) :
    Accounted d source ((Session.mk d false false false).connect source) := by
  unfold Session.connect
  cases hurl : d.toUrl with
  | error error =>
    have hnone : ¬ Leaks d source := fun ⟨⟨_, hok⟩, _⟩ => nomatch hurl.symm.trans hok
    exact ⟨rfl, (nomatch ·), fun _ _ => .inl ⟨rfl, hnone⟩⟩
  | ok url =>
    have hsteps := Session.openSteps_faithful source d url d.timeout
    have haccount := Session.take_held (s := ⟨d, false, false, false⟩) [] rfl hsteps
    obtain ⟨hmet, hheld⟩ := Session.take_openSteps ⟨d, false, false, false⟩ source url d.timeout rfl
    dsimp only
    generalize Session.take ⟨d, false, false, false⟩ [] (Session.openSteps source url d.timeout) = left at *
    obtain ⟨left, events, met⟩ := left
    dsimp only at hmet hheld haccount
    have hleaks := leaks_iff hurl hmet
    cases met with
    | none =>
      refine ⟨haccount, fun _ h => ?_, fun _ h => nomatch h⟩
      obtain ⟨-, _, hnone, -⟩ := hleaks.mp h
      cases hnone
    | some fault =>
      dsimp only
      split
      next hexpected =>
        have hnone : ¬ Leaks d source := by
          intro h
          obtain ⟨-, _, hfault, hunexpected⟩ := hleaks.mp h
          cases hfault
          cases hunexpected.symm.trans hexpected
        have hclosed : heldAfter source {} (events ++ left.close.2) = some left.close.1.held := by
          rw [heldAfter_append, haccount]
          exact left.close_held
        exact ⟨hclosed, (nomatch ·), fun _ _ => .inl ⟨rfl, hnone⟩⟩
      next hexpected =>
        refine ⟨haccount, (nomatch ·), fun _ _ => ?_⟩
        cases hcreate : source.createFault with
        | none =>
          rw [hcreate] at hheld
          exact .inr ⟨hheld, hleaks.mpr ⟨hcreate, fault, rfl, Bool.eq_false_iff.mpr hexpected⟩⟩
        | some _ =>
          rw [hcreate] at hheld
          exact .inl ⟨hheld, fun h => nomatch hcreate.symm.trans (hleaks.mp h).1⟩

/-- **Introspection lets go of what it made**, whatever fails in reading the catalog or in checking it: of every
engine and every connection once, and of a connection before its engine. Only where something is left behind does
it not: then the engine is still held, and the connection if it was opened. -/
theorem introspect_released (d : Descriptor) (source : Source) (o : Option Options) :
    (Released source (introspect d source o).events ↔ ¬ Leaks d source) ∧
      (Leaks d source →
        heldAfter source {} (introspect d source o).events = some ⟨true, source.connectFault.isNone⟩) := by
  have haccount := connect_accounted d source
  unfold introspect
  generalize (Session.mk d false false false).connect source = opened at *
  obtain ⟨session, events, outcome⟩ := opened
  obtain ⟨hheld, hok, herror⟩ := haccount
  cases outcome with
  | error error =>
    rcases herror error rfl with ⟨hnothing, hnone⟩ | ⟨hleft, hleaks⟩
    · rw [hnothing] at hheld
      exact ⟨iff_of_true (released_of_heldAfter hheld) hnone, fun hleaks => absurd hleaks hnone⟩
    · rw [hleft] at hheld
      refine ⟨iff_of_false (fun hreleased => ?_) (fun h => h hleaks), fun _ => hheld⟩
      cases hheld.symm.trans hreleased.order
  | ok _ =>
    have hclosed : heldAfter source {} (events ++ session.close.2) = some {} := by
      rw [heldAfter_append, hheld]
      exact session.close_held
    have hnone : ¬ Leaks d source := hok rfl
    have hresult := iff_of_true (released_of_heldAfter hclosed) hnone
    -- What is read while the session is open, and how it is checked after, changes no event.
    dsimp only
    cases session.read source with
    | error _ => exact ⟨hresult, fun hleaks => absurd hleaks hnone⟩
    | ok _ => exact ⟨hresult, fun hleaks => absurd hleaks hnone⟩

end SchemaScribe.Database
