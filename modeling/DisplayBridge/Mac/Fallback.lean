import DisplayBridge.Mac.Pipeline

/-!
# Giving up a host

The receiver tries again and again to connect to its host. Discovery may have found a
machine that cannot be reached, so after three failures in a row `checkFallback` takes
the default address instead. It counts the failures, and `connect` has to call it at
every exit that is one.

Two kinds of exits do not: if there is no socket, and if `inet_pton` rejects the host,
the attempt fails and nothing is counted. The receiver stays with a host that is no
address for ever, and discovery can supply one, as the name of a machine
(`DisplayBridge.SRTReceiver.not_fallback_of_name`). So what matters is not how many
attempts have failed but how many were refused by the network
(`DisplayBridge.SRTReceiver.fallback_of_failing_attempts`).
-/

namespace DisplayBridge

open Swift Runs

variable {pton : InetPton}

namespace SRTReceiver

section

variable (pton : InetPton)

/-- A call of `connect`, which reads the host itself. -/
def attempt (r : SRTReceiver) (outcome : ConnectOutcome) : Traps SRTReceiver :=
  r.connect pton r.targetHost outcome

/-- The result of `connect`. -/
def connects (r : SRTReceiver) (outcome : ConnectOutcome) : Bool :=
  outcome == .accepted && (sockAddr pton r.targetHost dbDefaultVideoPort).isSome

/-- The attempt fails. -/
def Fails (r : SRTReceiver) (outcome : ConnectOutcome) : Prop :=
  r.connects pton outcome = false

/-- The attempt fails at the one step whose failures are counted. -/
def Counts (r : SRTReceiver) (outcome : ConnectOutcome) : Prop :=
  outcome = .refused ∧ (sockAddr pton r.targetHost dbDefaultVideoPort).isSome

instance (r : SRTReceiver) (outcome : ConnectOutcome) : Decidable (r.Fails pton outcome) :=
  inferInstanceAs (Decidable (_ = false))

end

variable {r r' r₀ : SRTReceiver} {outcome : ConnectOutcome} {outcomes : List ConnectOutcome}

/-! ### One attempt -/

/-- What `checkFallback` does. -/
theorem checkFallback_eq_some (h : r.checkFallback = some r') :
    r' = if r.FallsBack then { r with targetHost := defaultUbuntuIp, consecutiveFailures := 0 }
      else { r with consecutiveFailures := r.consecutiveFailures + 1 } := by
  obtain ⟨n, hn, h⟩ := Option.bind_eq_some_iff.1 h
  obtain ⟨-, rfl⟩ := exactly_eq_some_iff.1 hn
  by_cases hback : r.FallsBack
  · rw [if_pos hback]
    exact (Option.some.inj ((if_pos hback).symm.trans h)).symm
  · rw [if_neg hback]
    exact (Option.some.inj ((if_neg hback).symm.trans h)).symm

theorem isSome_checkFallback (hlow : 0 ≤ r.consecutiveFailures)
    (hhigh : r.consecutiveFailures + 1 < 2 ^ 63) : r.checkFallback.isSome := by
  rw [checkFallback, addInt_of_mem (by omega) hhigh]
  change (if _ then some _ else some _).isSome = true
  split <;> rfl

/-- **An attempt does not trap**, unless the counter overflows. -/
theorem isSome_attempt (pton : InetPton) (hlow : 0 ≤ r.consecutiveFailures)
    (hhigh : r.consecutiveFailures + 1 < 2 ^ 63) (outcome : ConnectOutcome) :
    (r.attempt pton outcome).isSome := by
  rw [attempt]
  cases outcome with
  | noSocket => rfl
  | refused =>
    rw [connect]
    split
    · rfl
    · exact isSome_checkFallback hlow hhigh
  | accepted =>
    rw [connect]
    split <;> rfl

/-- **What an attempt that fails does**: nothing, unless it counts. -/
theorem attempt_of_fails (hfails : r.Fails pton outcome) (h : r.attempt pton outcome = some r') :
    (r.Counts pton outcome ∧ r.checkFallback = some r') ∨ ¬ r.Counts pton outcome ∧ r' = r := by
  rw [attempt] at h
  cases outcome with
  | noSocket => exact .inr ⟨fun hcounts => absurd hcounts.1 (by decide), (Option.some.inj h).symm⟩
  | refused =>
    rw [connect] at h
    cases haddr : sockAddr pton r.targetHost dbDefaultVideoPort with
    | none =>
      rw [haddr] at h
      refine .inr ⟨fun hcounts => ?_, (Option.some.inj h).symm⟩
      rw [Counts, haddr] at hcounts
      cases hcounts.2
    | some addr =>
      rw [haddr] at h
      exact .inl ⟨⟨rfl, haddr ▸ rfl⟩, h⟩
  | accepted =>
    -- the network accepts, so it was the address that failed
    have haddr : sockAddr pton r.targetHost dbDefaultVideoPort = none :=
      Option.not_isSome_iff_eq_none.1 (Bool.eq_false_iff.1 hfails)
    rw [connect, haddr] at h
    exact .inr ⟨fun hcounts => absurd hcounts.1 (by decide), (Option.some.inj h).symm⟩

/-- An attempt that succeeds resets the counter. -/
theorem consecutiveFailures_of_connects (hconnects : r.connects pton outcome = true)
    (h : r.attempt pton outcome = some r') : r'.consecutiveFailures = 0 := by
  obtain ⟨haccepted, hsome⟩ := Bool.and_eq_true_iff.1 hconnects
  obtain rfl := eq_of_beq haccepted
  obtain ⟨addr, haddr⟩ := Option.isSome_iff_exists.1 hsome
  rw [attempt, connect, haddr] at h
  exact congrArg consecutiveFailures (Option.some.inj h).symm

/-- The default address is not given up. -/
theorem targetHost_of_fails (hfails : r.Fails pton outcome) (h : r.attempt pton outcome = some r')
    (hdefault : r.targetHost = defaultUbuntuIp) : r'.targetHost = defaultUbuntuIp := by
  rcases attempt_of_fails hfails h with ⟨-, hcheck⟩ | ⟨-, rfl⟩
  · rw [checkFallback_eq_some hcheck]
    split
    · rfl
    · exact hdefault
  · exact hdefault

/-! ### Attempts in a row -/

/-- The failures that are counted are enough for the fallback. -/
def Enough (r : SRTReceiver) (outcomes : List ConnectOutcome) : Prop :=
  .refused ∈ outcomes ∧ 3 ≤ r.consecutiveFailures + outcomes.count .refused

instance (r : SRTReceiver) (outcomes : List ConnectOutcome) : Decidable (r.Enough outcomes) :=
  inferInstanceAs (Decidable (_ ∧ _))

/-- A host that is no address is kept, and nothing is counted. -/
theorem eq_of_run_of_none (hnone : sockAddr pton r.targetHost dbDefaultVideoPort = none)
    (hrun : Run (attempt pton) (Fails pton) r outcomes r') : r' = r := by
  refine hrun.invariant (I := (· = r)) rfl ?_
  rintro _ outcome s' rfl hfails h
  rcases attempt_of_fails hfails h with ⟨hcounts, -⟩ | ⟨-, hsame⟩
  · rw [Counts, hnone] at hcounts
    cases hcounts.2
  · exact hsame

theorem enough_concat_refused :
    r.Enough (outcomes ++ [.refused]) ↔
      3 ≤ r.consecutiveFailures + outcomes.count .refused + 1 := by
  have hmem : ConnectOutcome.refused ∈ outcomes ++ [.refused] :=
    List.mem_append_right _ List.mem_cons_self
  rw [Enough, and_iff_right hmem, List.count_append, List.count_singleton_self, Nat.cast_add,
    Nat.cast_one, add_assoc]

theorem enough_concat_of_ne (hne : outcome ≠ .refused) :
    r.Enough (outcomes ++ [outcome]) ↔ r.Enough outcomes := by
  have hmem : ConnectOutcome.refused ∈ outcomes ++ [outcome] ↔
      ConnectOutcome.refused ∈ outcomes := by
    rw [List.mem_append, List.mem_singleton]
    exact or_iff_left hne.symm
  rw [Enough, Enough, hmem, List.count_append, List.count_singleton, if_neg (by simpa using hne),
    add_zero]

/-- The invariant of the failing attempts at an address: they are counted, until there are
enough of them. -/
theorem targetHost_of_run_of_some (hhost : r.targetHost ≠ defaultUbuntuIp)
    (hsome : (sockAddr pton r.targetHost dbDefaultVideoPort).isSome)
    (hrun : Run (attempt pton) (Fails pton) r outcomes r') :
    (r.Enough outcomes → r'.targetHost = defaultUbuntuIp) ∧
      (¬ r.Enough outcomes → r'.targetHost = r.targetHost ∧
        r'.consecutiveFailures = r.consecutiveFailures + outcomes.count .refused) := by
  induction hrun with
  | start =>
    refine ⟨fun henough => absurd henough.1 List.not_mem_nil, fun _ => ⟨rfl, ?_⟩⟩
    rw [List.count_nil, Nat.cast_zero, add_zero]
  | @snoc outcomes s s' outcome _ hfails h ih =>
    by_cases henough : r.Enough outcomes
    · -- the fallback has happened before
      have hdefault : s'.targetHost = defaultUbuntuIp :=
        targetHost_of_fails hfails h (ih.1 henough)
      refine ⟨fun _ => hdefault, fun hno => absurd ?_ hno⟩
      refine ⟨List.mem_append_left _ henough.1, henough.2.trans ?_⟩
      rw [List.count_append]
      omega
    · obtain ⟨hsame, hcounter⟩ := ih.2 henough
      rcases attempt_of_fails hfails h with ⟨⟨rfl, -⟩, hcheck⟩ | ⟨hno, rfl⟩
      · have hback : s.FallsBack ↔ r.Enough (outcomes ++ [.refused]) := by
          rw [enough_concat_refused, FallsBack, hcounter, hsame]
          exact and_iff_left hhost
        rw [checkFallback_eq_some hcheck]
        refine ⟨fun hnow => by rw [if_pos (hback.2 hnow)], fun hnot => ?_⟩
        rw [if_neg (mt hback.1 hnot), List.count_append, List.count_singleton_self, hcounter,
          Nat.cast_add, Nat.cast_one, add_assoc]
        exact ⟨hsame, rfl⟩
      · have hne : outcome ≠ .refused := by
          rintro rfl
          refine hno ⟨rfl, ?_⟩
          rw [hsame]
          exact hsome
        rw [enough_concat_of_ne hne, List.count_append, List.count_singleton,
          if_neg (by simpa using hne), add_zero]
        exact ih

/-- **After any failing attempts**, the default address is the target exactly if the host
was an address and enough of the attempts were refused. -/
theorem targetHost_of_run (hhost : r.targetHost ≠ defaultUbuntuIp)
    (hrun : Run (attempt pton) (Fails pton) r outcomes r') :
    r'.targetHost = defaultUbuntuIp ↔
      (sockAddr pton r.targetHost dbDefaultVideoPort).isSome ∧ r.Enough outcomes := by
  cases haddr : sockAddr pton r.targetHost dbDefaultVideoPort with
  | none =>
    obtain rfl := eq_of_run_of_none haddr hrun
    exact iff_of_false hhost fun h => Bool.false_ne_true h.1
  | some addr =>
    obtain ⟨hfallback, hkeep⟩ := targetHost_of_run_of_some hhost (haddr ▸ rfl) hrun
    constructor
    · intro hdefault
      by_contra hno
      have hnot : ¬ r.Enough outcomes := fun henough => hno ⟨rfl, henough⟩
      exact hhost ((hkeep hnot).1.symm.trans hdefault)
    · exact fun h => hfallback h.2

/-- The counter of failures goes up by one at most. -/
theorem consecutiveFailures_of_attempt (hlow : 0 ≤ r.consecutiveFailures)
    (h : r.attempt pton outcome = some r') :
    0 ≤ r'.consecutiveFailures ∧ r'.consecutiveFailures ≤ r.consecutiveFailures + 1 := by
  cases hconnects : r.connects pton outcome with
  | true =>
    rw [consecutiveFailures_of_connects hconnects h]
    exact ⟨le_rfl, Int.le_add_one hlow⟩
  | false =>
    rcases attempt_of_fails hconnects h with ⟨-, hcheck⟩ | ⟨-, rfl⟩
    · rw [checkFallback_eq_some hcheck]
      split
      · exact ⟨le_rfl, Int.le_add_one hlow⟩
      · exact ⟨Int.le_add_one hlow, le_rfl⟩
    · exact ⟨hlow, Int.le_add_one le_rfl⟩

/-- **When a host is given up.** No attempt traps before the counter overflows, and one
that succeeds resets it. Of a host that is not the default, three failing attempts in a row
lead to the default address exactly if `inet_pton` accepts the host, and at least one of
them was refused, and so many that with the failures counted before there are three.
Further failing attempts keep the default address. -/
theorem fallback_of_failing_attempts (hhost : r.targetHost ≠ defaultUbuntuIp) :
    (∀ (s : SRTReceiver) (outcome : ConnectOutcome), 0 ≤ s.consecutiveFailures →
      s.consecutiveFailures + 1 < 2 ^ 63 → ∃ s', s.attempt pton outcome = some s' ∧
        0 ≤ s'.consecutiveFailures ∧ s'.consecutiveFailures ≤ s.consecutiveFailures + 1 ∧
        (s.connects pton outcome = true → s'.consecutiveFailures = 0)) ∧
    ∀ (first rest : List ConnectOutcome) (r₃ r' : SRTReceiver), first.length = 3 →
      Run (attempt pton) (Fails pton) r first r₃ → Run (attempt pton) (Fails pton) r₃ rest r' →
      (r₃.targetHost = defaultUbuntuIp ↔
        (sockAddr pton r.targetHost dbDefaultVideoPort).isSome ∧ r.Enough first) ∧
      (r₃.targetHost = defaultUbuntuIp → r'.targetHost = defaultUbuntuIp) := by
  constructor
  · intro s outcome hlow hhigh
    obtain ⟨s', hs'⟩ := Option.isSome_iff_exists.1 (isSome_attempt pton hlow hhigh outcome)
    obtain ⟨hlow', hhigh'⟩ := consecutiveFailures_of_attempt hlow hs'
    exact ⟨s', hs', hlow', hhigh', fun hconnects => consecutiveFailures_of_connects hconnects hs'⟩
  · intro first rest r₃ r' _ hfirst hrest
    refine ⟨targetHost_of_run hhost hfirst, fun hdefault => ?_⟩
    exact hrest.invariant (I := fun s => s.targetHost = defaultUbuntuIp) hdefault
      fun _ _ _ hs hfails h => targetHost_of_fails hfails h hs

/-- A machine that was found with its zone, and cannot be reached. -/
theorem fallback_of_refused :
    ∃ r₃, Run (attempt twoAddresses) (Fails twoAddresses) ⟨"10.0.0.7%en0", 0, true, none⟩
      [.refused, .refused, .refused] r₃ ∧ r₃.targetHost = defaultUbuntuIp := by
  have hrun : Run (attempt twoAddresses) (Fails twoAddresses) ⟨"10.0.0.7%en0", 0, true, none⟩
    [.refused, .refused, .refused] _ := run_get (by decide +kernel)
  have hhost : (⟨"10.0.0.7%en0", 0, true, none⟩ : SRTReceiver).targetHost ≠ defaultUbuntuIp := by
    decide
  exact ⟨_, hrun,
    ((fallback_of_failing_attempts hhost).2 _ [] _ _ rfl hrun .start).1.2 (by decide +kernel)⟩

/-- **A name is never given up**: `inet_pton` rejects it at every attempt, and no attempt
counts. -/
theorem not_fallback_of_name :
    ¬ ∀ (pton : InetPton) (r r₃ : SRTReceiver) (outcomes : List ConnectOutcome),
        r.targetHost ≠ defaultUbuntuIp → r.consecutiveFailures = 0 → outcomes.length = 3 →
        Run (attempt pton) (Fails pton) r outcomes r₃ → r₃.targetHost = defaultUbuntuIp := by
  intro h
  have hrun : Run (attempt twoAddresses) (Fails twoAddresses) ⟨"ubuntu.local", 0, true, none⟩
    [.refused, .refused, .refused] _ := run_get (by decide +kernel)
  exact absurd (h twoAddresses _ _ _ (by decide) rfl rfl hrun) (by decide +kernel)

end SRTReceiver

end DisplayBridge
