import DisplayBridge.Lib.Runs
import DisplayBridge.Mac.TargetHost

/-!
# The outcome of discovery

`ServiceDiscovery` looks for the sender, with three objects that call it back on its own
queue: the browser, the connections it makes to find out the address of a service, and the
timeout. A callback is enqueued while its object is not cancelled, but it runs later, and
whatever ran before it may have cancelled the object. Only a work item of the dispatch
queue is asked once more: the timeout does not run when it was cancelled in time.

The delegate should be told one outcome. Each handler guards itself, with the flag `resolved`
or by cancelling the other objects, and there are two gaps:

* **The failure of the browser** is reported whether there is an outcome or not. A sender
  whose address came from a connection leaves the browser running, so this may happen at
  any time (`DisplayBridge.two_outcomes_after_found`).
* **A failure does not set the flag.** After the timeout, or the failure of the browser, a
  callback that brings an address still reports a sender – one that was enqueued before, or
  one of a connection that was given up for a newer one and never cancelled.

In the other direction there is no gap: once an outcome was reported the timeout is
cancelled, and the flag is set exactly if a sender was reported
(`DisplayBridge.ServiceDiscovery.Reported`). So there is one outcome at most in exactly the runs
in which neither of the two happens (`DisplayBridge.oneOutcome_iff`).
-/

namespace DisplayBridge

open Runs

/-- `inet_ntop`: an address as a string. -/
abbrev InetNtop := AddressFamily → List UInt8 → Option String

/-! ### What the callbacks are given -/

/-- `NWEndpoint.Host`. -/
inductive NWHost
  | ipv4 (rawValue : List UInt8)
  | ipv6 (rawValue : List UInt8)
  | name (name : String)
deriving DecidableEq

/-- `NWEndpoint`. -/
inductive NWEndpoint
  | hostPort (host : NWHost) (port : UInt16)
  | service (name : String)
  | other
deriving DecidableEq

/-- `NWBrowser.State`. -/
inductive BrowserState
  | setup
  | ready
  | waiting
  | failed
  | cancelled
deriving DecidableEq

/-- `NWBrowser.Result.Change`. -/
inductive BrowseChange
  | added (endpoint : NWEndpoint)
  | removed (endpoint : NWEndpoint)
  | other
deriving DecidableEq

/-- `NWConnection.State`; a connection that is ready may have a remote endpoint. -/
inductive ConnectionState
  | ready (remoteEndpoint : Option NWEndpoint)
  | failed
  | cancelled
  | other
deriving DecidableEq

/-- The callbacks on the queue. The connections are numbered. -/
inductive DiscoveryCallback
  | browserState (state : BrowserState)
  | browseResults (changes : List BrowseChange)
  | connectionState (conn : ℕ) (state : ConnectionState)
  | timeout
deriving DecidableEq

/-- What the delegate is told. -/
inductive DiscoveryReport
  | didFindSender (host : String) (port : UInt16)
  | serviceDiscoveryDidFail
deriving DecidableEq

/-- Whether this is a sender. -/
def DiscoveryReport.isSender : DiscoveryReport → Bool
  | .didFindSender _ _ => true
  | .serviceDiscoveryDidFail => false

/-! ### `ServiceDiscovery` -/

/-- The fields of `ServiceDiscovery`, its objects, its queue, and what the delegate was told. -/
structure ServiceDiscovery where
  /-- Whether `browser` is not nil. -/
  browser : Bool
  connection : Option ℕ
  resolved : Bool
  /-- Whether `timeoutWork` is not nil. -/
  timeoutWork : Bool
  browserCancelled : Bool
  /-- The connections made so far, and whether they are cancelled. -/
  connections : List Bool
  timeoutCancelled : Bool
  deadlinePassed : Bool
  queue : List DiscoveryCallback
  reports : List DiscoveryReport
deriving DecidableEq

namespace ServiceDiscovery

/-- A new `ServiceDiscovery`. -/
def init : ServiceDiscovery := ⟨false, none, false, false, false, [], false, false, [], []⟩

/-- `startBrowsing`. -/
def startBrowsing (d : ServiceDiscovery) : ServiceDiscovery :=
  if d.browser then d
  else { d with
    resolved := false
    browser := true
    browserCancelled := false
    timeoutWork := true
    timeoutCancelled := false
    deadlinePassed := false }

/-- `timeoutWork?.cancel()`. -/
def cancelTimeout (d : ServiceDiscovery) : ServiceDiscovery :=
  { d with timeoutCancelled := d.timeoutCancelled || d.timeoutWork }

/-- `stopBrowsingKeepResult`. -/
def stopBrowsingKeepResult (d : ServiceDiscovery) : ServiceDiscovery :=
  { d with browserCancelled := d.browserCancelled || d.browser, browser := false }

/-- `conn.cancel()`. -/
def cancelConnection (d : ServiceDiscovery) (conn : ℕ) : ServiceDiscovery :=
  { d with connections := d.connections.set conn true }

/-- `stopBrowsing`. -/
def stopBrowsing (d : ServiceDiscovery) : ServiceDiscovery :=
  let d := { d.cancelTimeout with timeoutWork := false }
  let d := d.stopBrowsingKeepResult
  match d.connection with
  | none => d
  | some conn => { d.cancelConnection conn with connection := none }

/-- A call of the delegate, which `DispatchQueue.main.async` makes. -/
def report (d : ServiceDiscovery) (outcome : DiscoveryReport) : ServiceDiscovery :=
  { d with reports := d.reports ++ [outcome] }

/-- `handleBrowserState`. -/
def handleBrowserState (d : ServiceDiscovery) : BrowserState → ServiceDiscovery
  | .failed => d.stopBrowsing.report .serviceDiscoveryDidFail
  | _ => d

variable (ntop : InetNtop)

/-- The `switch` of `extractAddress`: the host as a string, if it is usable. -/
def hostStr : NWHost → Option String
  | .ipv4 raw => ntop .inet raw
  | .ipv6 raw =>
    match ntop .inet6 raw with
    | none => none
    | some s => if "fe80".toList.isPrefixOf s.toList then none else some s
  | .name name => some (stripZone name)

/-- `extractAddress`. -/
def extractAddress (d : ServiceDiscovery) (endpoint : NWEndpoint) : ServiceDiscovery :=
  if d.resolved then d
  else
    match endpoint with
    | .hostPort host port =>
      match hostStr ntop host with
      | none => d
      | some hostStr =>
        ({ d with resolved := true }.cancelTimeout).report (.didFindSender hostStr port)
    | _ => d

/-- `stateUpdateHandler` of a connection. -/
def handleConnectionState (d : ServiceDiscovery) (conn : ℕ) (state : ConnectionState) :
    ServiceDiscovery :=
  if d.resolved then d
  else
    match state with
    | .ready (some remoteEndpoint) => (d.extractAddress ntop remoteEndpoint).cancelConnection conn
    | .ready none => d.cancelConnection conn
    | .failed => d.cancelConnection conn
    | _ => d

/-- `resolveEndpoint`. -/
def resolveEndpoint (d : ServiceDiscovery) (endpoint : NWEndpoint) : ServiceDiscovery :=
  if d.resolved then d
  else
    let d := { d with
      connection := some d.connections.length
      connections := d.connections ++ [false] }
    match endpoint with
    | .hostPort (.ipv4 raw) port =>
      match ntop .inet raw with
      | none => d
      | some ipStr =>
        (({ d with resolved := true }.cancelTimeout).stopBrowsingKeepResult).report
          (.didFindSender ipStr port)
    | _ => d

/-- The endpoint of the first result that was added. -/
def firstAdded : List BrowseChange → Option NWEndpoint
  | [] => none
  | .added endpoint :: _ => some endpoint
  | _ :: changes => firstAdded changes

/-- `handleBrowseResults`. -/
def handleBrowseResults (d : ServiceDiscovery) (changes : List BrowseChange) : ServiceDiscovery :=
  if d.resolved then d
  else
    match firstAdded changes with
    | none => d
    | some endpoint => d.resolveEndpoint ntop endpoint

/-- The work of the timeout. -/
def handleTimeout (d : ServiceDiscovery) : ServiceDiscovery :=
  if d.resolved then d else d.stopBrowsing.report .serviceDiscoveryDidFail

/-- A callback runs. A work item that was cancelled before does nothing. -/
def handle (d : ServiceDiscovery) : DiscoveryCallback → ServiceDiscovery
  | .browserState state => d.handleBrowserState state
  | .browseResults changes => d.handleBrowseResults ntop changes
  | .connectionState conn state => d.handleConnectionState ntop conn state
  | .timeout => if d.timeoutCancelled then d else d.handleTimeout

/-- Whether the object of a callback enqueues it now: one that is cancelled tells only this. -/
def CanEnqueue (d : ServiceDiscovery) : DiscoveryCallback → Prop
  | .browserState .cancelled => d.browserCancelled = true
  | .browserState _ => d.browserCancelled = false
  | .browseResults _ => d.browserCancelled = false
  | .connectionState conn .cancelled => d.connections[conn]? = some true
  | .connectionState conn _ => d.connections[conn]? = some false
  | .timeout => d.deadlinePassed = false

instance (d : ServiceDiscovery) (c : DiscoveryCallback) : Decidable (d.CanEnqueue c) := by
  unfold CanEnqueue
  split <;> infer_instance

end ServiceDiscovery

/-- What can happen after `startBrowsing`: a callback is enqueued, or the first one of the queue
runs. -/
inductive DiscoveryEvent
  | enqueue (callback : DiscoveryCallback)
  | run
deriving DecidableEq

/-- One step. -/
def discoveryStep (ntop : InetNtop) (d : ServiceDiscovery) :
    DiscoveryEvent → Option ServiceDiscovery
  | .enqueue c =>
    if d.CanEnqueue c then
      some { d with
        queue := d.queue ++ [c]
        deadlinePassed := d.deadlinePassed || decide (c = .timeout) }
    else none
  | .run =>
    match d.queue with
    | [] => none
    | c :: queue => some ({ d with queue := queue }.handle ntop c)

/-! ### The two gaps -/

namespace ServiceDiscovery

variable (ntop : InetNtop)

/-- The address of an endpoint that was found. -/
def foundAddress : NWEndpoint → Option (String × UInt16)
  | .hostPort (.ipv4 raw) port => (ntop .inet raw).map (·, port)
  | _ => none

/-- The address of the remote endpoint of a connection. -/
def remoteAddress : NWEndpoint → Option (String × UInt16)
  | .hostPort host port => (hostStr ntop host).map (·, port)
  | _ => none

/-- The address that a callback brings. -/
def broughtAddress : DiscoveryCallback → Option (String × UInt16)
  | .browseResults changes => (firstAdded changes).bind (foundAddress ntop)
  | .connectionState _ (.ready remoteEndpoint) => remoteEndpoint.bind (remoteAddress ntop)
  | _ => none

/-- The delegate was told a sender. -/
def senderReported (d : ServiceDiscovery) : Bool := d.reports.any DiscoveryReport.isSender

/-- **A callback runs in time**: once there is an outcome, it is not the failure of the browser,
and unless the outcome is a sender it brings no address. -/
def OnTime (d : ServiceDiscovery) (c : DiscoveryCallback) : Prop :=
  d.reports ≠ [] →
    c ≠ .browserState .failed ∧ (d.senderReported = false → broughtAddress ntop c = none)

instance (d : ServiceDiscovery) (c : DiscoveryCallback) : Decidable (d.OnTime ntop c) :=
  inferInstanceAs (Decidable (_ → _))

end ServiceDiscovery

/-- The callback that a step runs is in time. -/
def StepOnTime (ntop : InetNtop) (d : ServiceDiscovery) : DiscoveryEvent → Prop
  | .enqueue _ => True
  | .run => ∀ c ∈ d.queue.head?, d.OnTime ntop c

instance (ntop : InetNtop) (d : ServiceDiscovery) (e : DiscoveryEvent) :
    Decidable (StepOnTime ntop d e) := by
  cases e with
  | enqueue => exact instDecidableTrue
  | run =>
    cases hq : d.queue.head? with
    | none => exact isTrue (by simp [StepOnTime, hq])
    | some c => exact decidable_of_iff (d.OnTime ntop c) (by simp [StepOnTime, hq])

/-! ### What a callback reports -/

namespace ServiceDiscovery

variable {ntop : InetNtop}

/-- A sender is reported if nothing is resolved yet. -/
def found (d : ServiceDiscovery) (address : Option (String × UInt16)) : List DiscoveryReport :=
  if d.resolved then [] else address.toList.map fun a => .didFindSender a.1 a.2

/-- What a callback tells the delegate. -/
def outcome (ntop : InetNtop) (d : ServiceDiscovery) : DiscoveryCallback → List DiscoveryReport
  | .browserState .failed => [.serviceDiscoveryDidFail]
  | .timeout =>
    if d.timeoutCancelled = true ∨ d.resolved = true then [] else [.serviceDiscoveryDidFail]
  | c => d.found (broughtAddress ntop c)

theorem stopBrowsing_reports (d : ServiceDiscovery) : d.stopBrowsing.reports = d.reports := by
  unfold stopBrowsing
  dsimp only
  split <;> rfl

/-- Stopping leaves no timeout that is not cancelled, if there was none. -/
theorem stopBrowsing_timeoutCancelled (d : ServiceDiscovery) :
    d.stopBrowsing.timeoutCancelled = (d.timeoutCancelled || d.timeoutWork) := by
  unfold stopBrowsing
  dsimp only
  split <;> rfl

theorem stopBrowsing_resolved (d : ServiceDiscovery) : d.stopBrowsing.resolved = d.resolved := by
  unfold stopBrowsing
  dsimp only
  split <;> rfl

/-- **The invariant**: the timeout is cancelled if there is no work item any more, or an outcome
was reported; and the flag is set exactly if that was a sender. -/
structure Reported (d : ServiceDiscovery) : Prop where
  work : d.timeoutWork = false → d.timeoutCancelled = true
  reports : d.reports ≠ [] → d.timeoutCancelled = true
  resolved : d.resolved = d.senderReported

/-- What was reported, and the invariant, after a part of a callback that reports `l`. -/
def Reports (d d' : ServiceDiscovery) (l : List DiscoveryReport) : Prop :=
  d'.reports = d.reports ++ l ∧ d'.Reported

variable {d : ServiceDiscovery}

theorem Reported.cancelled (h : d.Reported) : (d.timeoutCancelled || d.timeoutWork) = true := by
  rcases hwork : d.timeoutWork with - | -
  · rw [h.work hwork, Bool.true_or]
  · exact Bool.or_true _

theorem Reported.of_cancelled (h : d.timeoutCancelled = true)
    (hresolved : d.resolved = d.senderReported) : d.Reported :=
  ⟨fun _ => h, fun _ => h, hresolved⟩

/-- The last report, and those before it. -/
theorem senderReported_concat {reports : List DiscoveryReport} {outcome : DiscoveryReport}
    (hreports : d.reports = reports ++ [outcome]) :
    d.senderReported = (reports.any DiscoveryReport.isSender || outcome.isSender) := by
  rw [senderReported, hreports, List.any_append, List.any_cons, List.any_nil, Bool.or_false]

/-- What does not concern the timeout and the flag keeps the invariant. -/
theorem Reported.reports_nil (h : d.Reported) {d' : ServiceDiscovery}
    (hwork : d'.timeoutWork = d.timeoutWork) (hcancelled : d'.timeoutCancelled = d.timeoutCancelled)
    (hresolved : d'.resolved = d.resolved) (hreports : d'.reports = d.reports) :
    Reports d d' [] := by
  refine ⟨by rw [hreports, List.append_nil], ?_, ?_, ?_⟩
  · rw [hwork, hcancelled]
    exact h.work
  · rw [hreports, hcancelled]
    exact h.reports
  · rw [senderReported, hreports, hresolved]
    exact h.resolved

/-- **A failure** is reported behind `stopBrowsing`. -/
theorem Reported.fail (h : d.Reported) :
    Reports d (d.stopBrowsing.report .serviceDiscoveryDidFail) [.serviceDiscoveryDidFail] := by
  refine ⟨by rw [report, stopBrowsing_reports], .of_cancelled ?_ ?_⟩
  · change d.stopBrowsing.timeoutCancelled = true
    rw [stopBrowsing_timeoutCancelled, h.cancelled]
  · rw [senderReported_concat rfl, stopBrowsing_reports]
    change d.stopBrowsing.resolved = (d.senderReported || false)
    rw [stopBrowsing_resolved, h.resolved, Bool.or_false]

/-- **A sender** is reported behind the flag and the timeout. -/
theorem Reported.find (h : d.Reported) {d' : ServiceDiscovery} {host : String} {port : UInt16}
    (hcancelled : d'.timeoutCancelled = (d.timeoutCancelled || d.timeoutWork))
    (hresolved : d'.resolved = true)
    (hreports : d'.reports = d.reports ++ [.didFindSender host port]) :
    Reports d d' [.didFindSender host port] := by
  refine ⟨hreports, .of_cancelled (hcancelled.trans h.cancelled) ?_⟩
  rw [hresolved, senderReported_concat hreports]
  exact (Bool.or_true _).symm

theorem found_of_resolved (h : d.resolved = true) (address : Option (String × UInt16)) :
    d.found address = [] := if_pos h

theorem found_none (d : ServiceDiscovery) : d.found none = [] := ite_self []

theorem found_some (h : ¬d.resolved = true) (host : String) (port : UInt16) :
    d.found (some (host, port)) = [.didFindSender host port] := if_neg h

/-- Once something is resolved, no address makes a difference. -/
theorem Reported.already_found (h : d.Reported) (hresolved : d.resolved = true)
    (address : Option (String × UInt16)) : Reports d d (d.found address) := by
  rw [found_of_resolved hresolved]
  exact h.reports_nil rfl rfl rfl rfl

/-- Without an address nothing is reported. -/
theorem Reported.nothing_found (h : d.Reported) {d' : ServiceDiscovery}
    (hwork : d'.timeoutWork = d.timeoutWork) (hcancelled : d'.timeoutCancelled = d.timeoutCancelled)
    (hresolved : d'.resolved = d.resolved) (hreports : d'.reports = d.reports) :
    Reports d d' (d.found none) := by
  rw [found_none]
  exact h.reports_nil hwork hcancelled hresolved hreports

theorem Reported.extractAddress (h : d.Reported) (endpoint : NWEndpoint) :
    Reports d (d.extractAddress ntop endpoint) (d.found (remoteAddress ntop endpoint)) := by
  unfold ServiceDiscovery.extractAddress
  by_cases hresolved : d.resolved = true
  · rw [if_pos hresolved]
    exact h.already_found hresolved _
  · rw [if_neg hresolved]
    rcases endpoint with ⟨host, port⟩ | - | -
    · rcases hhost : hostStr ntop host with - | s
      · rw [remoteAddress, hhost]
        dsimp only
        rw [hhost]
        exact h.nothing_found rfl rfl rfl rfl
      · rw [remoteAddress, hhost, Option.map_some, found_some hresolved]
        dsimp only
        rw [hhost]
        exact h.find rfl rfl rfl
    all_goals exact h.nothing_found rfl rfl rfl rfl

/-- Cancelling a connection does not concern what is reported. -/
theorem Reports.cancelConnection {d' : ServiceDiscovery} {l : List DiscoveryReport}
    (h : Reports d d' l) (conn : ℕ) : Reports d (d'.cancelConnection conn) l :=
  ⟨h.1, h.2.work, h.2.reports, h.2.resolved⟩

theorem Reported.handleConnectionState (h : d.Reported) (conn : ℕ) (state : ConnectionState) :
    Reports d (d.handleConnectionState ntop conn state)
      (d.found (broughtAddress ntop (.connectionState conn state))) := by
  unfold ServiceDiscovery.handleConnectionState
  by_cases hresolved : d.resolved = true
  · rw [if_pos hresolved]
    exact h.already_found hresolved _
  · rw [if_neg hresolved]
    rcases state with (- | remoteEndpoint) | - | - | -
    rotate_left
    · exact (h.extractAddress remoteEndpoint).cancelConnection conn
    all_goals exact h.nothing_found rfl rfl rfl rfl

theorem Reported.handleBrowseResults (h : d.Reported) (changes : List BrowseChange) :
    Reports d (d.handleBrowseResults ntop changes)
      (d.found (broughtAddress ntop (.browseResults changes))) := by
  unfold ServiceDiscovery.handleBrowseResults
  by_cases hresolved : d.resolved = true
  · rw [if_pos hresolved]
    exact h.already_found hresolved _
  · rw [if_neg hresolved, broughtAddress]
    rcases firstAdded changes with - | endpoint
    · exact h.nothing_found rfl rfl rfl rfl
    · rw [Option.bind_some]
      show Reports d (d.resolveEndpoint ntop endpoint) _
      unfold resolveEndpoint
      rw [if_neg hresolved]
      rcases endpoint with ⟨raw | raw | name, port⟩ | - | -
      · rcases hraw : ntop .inet raw with - | ipStr
        · rw [foundAddress, hraw]
          dsimp only
          rw [hraw]
          exact h.nothing_found rfl rfl rfl rfl
        · rw [foundAddress, hraw, Option.map_some, found_some hresolved]
          dsimp only
          rw [hraw]
          exact h.find rfl rfl rfl
      all_goals exact h.nothing_found rfl rfl rfl rfl

/-- **A callback** reports its outcome, and keeps the invariant. -/
theorem Reported.handle (h : d.Reported) (c : DiscoveryCallback) :
    Reports d (d.handle ntop c) (d.outcome ntop c) := by
  rcases c with state | changes | ⟨conn, state⟩ | -
  · by_cases hfailed : state = .failed
    · subst hfailed
      exact h.fail
    · have hsame : d.handle ntop (.browserState state) = d := by
        cases state <;> first | rfl | exact absurd rfl hfailed
      have hnone : d.outcome ntop (.browserState state) = d.found none := by
        cases state <;> first | rfl | exact absurd rfl hfailed
      rw [hsame, hnone]
      exact h.nothing_found rfl rfl rfl rfl
  · exact h.handleBrowseResults changes
  · exact h.handleConnectionState conn state
  · show Reports d (if d.timeoutCancelled then d else d.handleTimeout) _
    rw [outcome, handleTimeout]
    by_cases hcancelled : d.timeoutCancelled = true
    · rw [if_pos hcancelled, if_pos (Or.inl hcancelled)]
      exact h.reports_nil rfl rfl rfl rfl
    · rw [if_neg hcancelled]
      by_cases hresolved : d.resolved = true
      · rw [if_pos hresolved, if_pos (Or.inr hresolved)]
        exact h.reports_nil rfl rfl rfl rfl
      · rw [if_neg hresolved, if_neg (not_or.2 ⟨hcancelled, hresolved⟩)]
        exact h.fail

/-- A callback tells at most one thing. -/
theorem length_outcome_le (d : ServiceDiscovery) (c : DiscoveryCallback) :
    (d.outcome ntop c).length ≤ 1 := by
  have hfound : ∀ address, (d.found address).length ≤ 1 := by
    intro address
    unfold found
    split
    · exact Nat.zero_le 1
    · rw [List.length_map]
      cases address with
      | none => exact Nat.zero_le 1
      | some _ => exact le_refl 1
  unfold outcome
  split
  · exact le_refl 1
  · split
    · exact Nat.zero_le 1
    · exact le_refl 1
  · exact hfound _

/-- **Once there is an outcome**, a callback tells nothing exactly if it is in time. -/
theorem Reported.outcome_eq_nil_iff (h : d.Reported) (hne : d.reports ≠ [])
    (c : DiscoveryCallback) : d.outcome ntop c = [] ↔ d.OnTime ntop c := by
  have hcancelled : d.timeoutCancelled = true := h.reports hne
  have hfound : ∀ address, d.found address = [] ↔ (d.resolved = false → address = none) := by
    intro address
    rcases hresolved : d.resolved with - | -
    · rcases address with - | a
      · exact iff_of_true (found_none d) fun _ => rfl
      · refine iff_of_false ?_ fun hnone => ?_
        · rw [found_some (by rw [hresolved]; exact Bool.false_ne_true)]
          exact List.cons_ne_nil _ _
        · cases hnone rfl
    · exact iff_of_true (found_of_resolved hresolved _) fun hno => by cases hno
  unfold OnTime outcome
  rw [← h.resolved]
  constructor
  · intro hnil _
    split at hnil
    · cases hnil
    · exact ⟨by simp, fun _ => rfl⟩
    · next hother _ => exact ⟨fun heq => hother heq, (hfound _).1 hnil⟩
  · intro honTime
    obtain ⟨hfailed, haddress⟩ := honTime hne
    split
    · exact absurd rfl hfailed
    · exact if_pos (Or.inl hcancelled)
    · exact (hfound _).2 haddress

end ServiceDiscovery

/-! ### Runs -/

/-- What a step is: a callback joins the queue, or the first one leaves it and runs. -/
theorem discoveryStep_eq_some {ntop : InetNtop} {d d' : ServiceDiscovery} {e : DiscoveryEvent}
    (h : discoveryStep ntop d e = some d') :
    (∃ c, e = .enqueue c ∧ d.CanEnqueue c ∧
      d' = { d with
        queue := d.queue ++ [c]
        deadlinePassed := d.deadlinePassed || decide (c = .timeout) }) ∨
    ∃ c queue, e = .run ∧ d.queue = c :: queue ∧ d' = { d with queue := queue }.handle ntop c := by
  rcases e with c | -
  · rw [discoveryStep] at h
    by_cases hcan : d.CanEnqueue c
    · rw [if_pos hcan] at h
      exact Or.inl ⟨c, rfl, hcan, (Option.some.inj h).symm⟩
    · rw [if_neg hcan] at h
      cases h
  · rw [discoveryStep] at h
    rcases hqueue : d.queue with - | ⟨c, queue⟩
    · rw [hqueue] at h
      cases h
    · rw [hqueue] at h
      exact Or.inr ⟨c, queue, rfl, rfl, (Option.some.inj h).symm⟩

open ServiceDiscovery in
/-- **One step**: it keeps the invariant, and there is one outcome at most behind it exactly
if this was so before, and the callback is in time. -/
theorem ServiceDiscovery.Reported.step {ntop : InetNtop} {d d' : ServiceDiscovery}
    {e : DiscoveryEvent} (h : d.Reported) (hs : discoveryStep ntop d e = some d') :
    d'.Reported ∧ (d'.reports.length ≤ 1 ↔ d.reports.length ≤ 1 ∧ StepOnTime ntop d e) := by
  rcases discoveryStep_eq_some hs with ⟨c, rfl, -, rfl⟩ | ⟨c, queue, rfl, hqueue, rfl⟩
  · exact ⟨⟨h.work, h.reports, h.resolved⟩, (and_iff_left trivial).symm⟩
  · have hd : { d with queue := queue }.Reported := ⟨h.work, h.reports, h.resolved⟩
    obtain ⟨hreports, hnext⟩ := @Reported.handle ntop _ hd c
    have honTime : StepOnTime ntop d .run ↔ d.OnTime ntop c := by
      unfold StepOnTime
      rw [hqueue]
      simp only [List.head?_cons, Option.mem_some_iff, forall_eq']
    have hone := @length_outcome_le ntop { d with queue := queue } c
    refine ⟨hnext, ?_⟩
    rw [hreports, List.length_append, honTime]
    by_cases hne : d.reports = []
    · have hzero : d.reports.length = 0 := by rw [hne, List.length_nil]
      exact iff_of_true (by dsimp only; omega) ⟨by omega, fun hno => absurd hne hno⟩
    · have hpos : 0 < d.reports.length := List.length_pos_iff.2 hne
      have hnil : ({ d with queue := queue }.outcome ntop c).length = 0 ↔ d.OnTime ntop c := by
        rw [List.length_eq_zero_iff]
        exact @Reported.outcome_eq_nil_iff ntop _ hd hne c
      rw [← hnil]
      dsimp only
      omega

/-- **Discovery has one outcome at most exactly if every callback runs in time**: in every run
from `startBrowsing`, in whatever order the callbacks are enqueued. -/
theorem oneOutcome_iff {ntop : InetNtop} {events : List DiscoveryEvent} {d : ServiceDiscovery}
    (hrun : Run (discoveryStep ntop) (fun _ _ => True) ServiceDiscovery.init.startBrowsing
      events d) :
    d.reports.length ≤ 1 ↔
      Run (discoveryStep ntop) (StepOnTime ntop) ServiceDiscovery.init.startBrowsing events d := by
  have hstart : ServiceDiscovery.init.startBrowsing.Reported :=
    ⟨fun hno => absurd hno (by decide), fun hno => absurd rfl hno, rfl⟩
  constructor
  · intro hone
    induction hrun with
    | start => exact .start
    | snoc hrun _ hs ih =>
      have hinv := hrun.invariant (I := ServiceDiscovery.Reported) hstart
        fun _ _ _ h _ hs => (h.step hs).1
      obtain ⟨hbefore, honTime⟩ := (hinv.step hs).2.1 hone
      exact .snoc (ih hbefore) honTime hs
  · intro honTime
    have hinv := honTime.invariant
      (I := fun d => ServiceDiscovery.Reported d ∧ d.reports.length ≤ 1)
      ⟨hstart, Nat.zero_le 1⟩ fun _ _ _ h hok hs =>
        ⟨(h.1.step hs).1, (h.1.step hs).2.2 ⟨h.2, hok⟩⟩
    exact hinv.2

/-! ### A sender that is found, and a browser that fails -/

/-- `inet_ntop` on the address of the run below. -/
def oneAddress : InetNtop
  | .inet, [10, 0, 0, 7] => some "10.0.0.7"
  | _, _ => none

/-- A service appears, and a connection to it tells its address. -/
def senderFound : List DiscoveryEvent :=
  [.enqueue (.browserState .ready), .run,
    .enqueue (.browseResults [.added (.service "ubuntu")]), .run,
    .enqueue (.connectionState 0 (.ready (some (.hostPort (.ipv4 [10, 0, 0, 7]) 5000)))), .run]

theorem oneOutcome_senderFound :
    ∃ d, Run (discoveryStep oneAddress) (fun _ _ => True) ServiceDiscovery.init.startBrowsing
      senderFound d ∧ d.reports.length ≤ 1 :=
  ⟨_, run_get (by decide +kernel),
    (oneOutcome_iff (run_get (by decide +kernel))).2 (run_get (by decide +kernel))⟩

/-- **The browser still runs**, and when it fails the sender that was found is replaced. -/
theorem two_outcomes_after_found :
    ∃ d, Run (discoveryStep oneAddress) (fun _ _ => True) ServiceDiscovery.init.startBrowsing
      (senderFound ++ [.enqueue (.browserState .failed), .run]) d ∧
      d.reports = [.didFindSender "10.0.0.7" 5000, .serviceDiscoveryDidFail] :=
  ⟨_, run_get (by decide +kernel), by decide +kernel⟩

end DisplayBridge
