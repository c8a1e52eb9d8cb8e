import LeverageKeeper.Proofs.Fund.Agreement
import LeverageKeeper.Proofs.Fund.Engagement
import Mathlib.Data.List.MinMax

/-!
# What a look calls

The keeper picks the first of the most urgent actions.  All that a fund reports at one time other
than nothing is the same action, since the position is the same for every venue and only the venues'
own cooldowns differ; so the keeper acts on the first rested venue, and passes over nothing that is
more urgent.  A look does to the fund what this one call does, and its outcome is the outcome of the
call.
-/

namespace LeverageKeeper

namespace Keeper

/-! ### The choice -/

section Choice

variable {α : Type} [DecidableEq α] {rank : α → ℕ} {xs : List α} {x : α}

/-- The first of the greatest stands where all before it are smaller and none after it is greater. -/
lemma argmax_eq_some_iff_append :
    xs.argmax rank = some x ↔
      ∃ before after, xs = before ++ x :: after ∧ (∀ y ∈ before, rank y < rank x) ∧
        ∀ y ∈ after, rank y ≤ rank x := by
  rw [List.argmax_eq_some_iff]
  constructor
  · rintro ⟨hmem, hmost, hfirst⟩
    obtain ⟨before, after, rfl, hx⟩ := List.eq_append_cons_of_mem hmem
    refine ⟨before, after, rfl, fun y hy => ?_, fun y hy => hmost y (by simp [hy])⟩
    by_contra hge
    have hle := hfirst y (by simp [hy]) (not_lt.1 hge)
    rw [List.idxOf_append_of_notMem hx, List.idxOf_cons_self, Nat.add_zero,
      List.idxOf_append_of_mem hy] at hle
    exact Nat.not_lt.2 hle (List.idxOf_lt_length_of_mem hy)
  · rintro ⟨before, after, rfl, hbefore, hafter⟩
    refine ⟨by simp, fun y hy => ?_, fun y _ hge => ?_⟩
    · rcases List.mem_append.1 hy with hy | hy
      · exact (hbefore y hy).le
      · rcases List.mem_cons.1 hy with rfl | hy
        · exact le_rfl
        · exact hafter y hy
    · -- what is as great does not stand before
      have hy : y ∉ before := fun hy => Nat.not_lt.2 hge (hbefore y hy)
      have hx : x ∉ before := fun hx => lt_irrefl _ (hbefore x hx)
      rw [List.idxOf_append_of_notMem hx, List.idxOf_append_of_notMem hy, List.idxOf_cons_self]
      exact Nat.le_add_right _ _

end Choice

section Pick

variable {xs : List (String × Action)} {x : String × Action}

/-- The action is one to take; all actions before it are less urgent, and none after it is more
urgent. -/
def Foremost (xs : List (String × Action)) (x : String × Action) : Prop :=
  x.2 ≠ .none ∧ ∃ before after, xs = before ++ x :: after ∧
    (∀ y ∈ before, urgency y.2 < urgency x.2) ∧ ∀ y ∈ after, urgency y.2 ≤ urgency x.2

lemma urgency_pos {a : Action} (h : a ≠ .none) : 0 < urgency a := by
  cases a with
  | none => exact absurd rfl h
  | _ => decide

lemma pick?_eq_argmax (xs : List (String × Action)) :
    pick? xs = (xs.filter fun x => x.2 ≠ .none).argmax fun x => urgency x.2 := by
  unfold pick? List.argmax
  congr 1
  funext best x
  cases best with
  | none => rfl
  | some b =>
    by_cases h : urgency x.2 ≤ urgency b.2
    · simp [List.argAux, h, Nat.not_lt.2 h]
    · simp [List.argAux, h, Nat.not_le.1 h]

/-- Nothing is picked just if there is nothing to do on any venue. -/
theorem pick?_eq_none : pick? xs = none ↔ ∀ x ∈ xs, x.2 = .none := by
  rw [pick?_eq_argmax, List.argmax_eq_none, List.filter_eq_nil_iff]
  simp

/-- **What is picked is the first of the most urgent actions.** -/
theorem pick?_eq_some : pick? xs = some x ↔ Foremost xs x := by
  -- what is left out is less urgent than anything there is to do
  have hidle : ∀ {ys : List (String × Action)} {n : ℕ}, 0 < n →
      ((∀ y ∈ ys.filter fun y => y.2 ≠ .none, urgency y.2 < n) ↔ ∀ y ∈ ys, urgency y.2 < n) := by
    intro ys n hn
    refine ⟨fun h y hy => ?_, fun h y hy => h y (List.mem_of_mem_filter hy)⟩
    by_cases hnone : y.2 = .none
    · rw [hnone]
      exact hn
    · exact h y (List.mem_filter.2 ⟨hy, by simpa using hnone⟩)
  rw [pick?_eq_argmax, argmax_eq_some_iff_append]
  constructor
  · rintro ⟨before, after, hxs, hbefore, hafter⟩
    obtain ⟨us, vs, rfl, rfl, hvs⟩ := List.filter_eq_append_iff.1 hxs
    obtain ⟨ws, zs, rfl, hws, hx, rfl⟩ := List.filter_eq_cons_iff.1 hvs
    have hx : x.2 ≠ .none := by simpa using hx
    refine ⟨hx, us ++ ws, zs, by simp, fun y hy => ?_, fun y hy => ?_⟩
    · rcases List.mem_append.1 hy with hy | hy
      · exact (hidle (urgency_pos hx)).1 hbefore y hy
      · rw [show y.2 = .none by simpa using hws y hy]
        exact urgency_pos hx
    · exact Nat.lt_succ_iff.1 ((hidle (Nat.succ_pos _)).1
        (fun z hz => Nat.lt_succ_iff.2 (hafter z hz)) y hy)
  · rintro ⟨hx, before, after, rfl, hbefore, hafter⟩
    rw [List.filter_append, List.filter_cons_of_pos (by simpa using hx)]
    exact ⟨_, _, rfl, (hidle (urgency_pos hx)).2 hbefore,
      fun y hy => hafter y (List.mem_of_mem_filter hy)⟩

end Pick

/-! ### The call -/

section Call

variable {f : Fund} {keeper : Address} {venue : String} {a : Action} {c : Call}

/-- The leverage ratio that a call leaves behind, if its answer tells. -/
def leverageAfter? : Answer → Option Decimal
  | .report r => r.leverageAfter
  | .iteration (.executed r) => r.leverageAfter
  | .rescue r => r.report.leverageAfter
  | _ => none

/-- An action is performed by its call. -/
lemma perform_eq (h : Fund.callFor keeper venue a = some c) :
    perform f keeper venue a = ((f.call c).1, (f.call c).2.map leverageAfter?) := by
  have key : ∀ {α : Type} (x : Fund × Outcome α) (into : α → Answer) (read : α → Option Decimal),
      (∀ r, leverageAfter? (into r) = read r) →
      (x.1, x.2.map read)
        = ((Fund.answering into x).1, (Fund.answering into x).2.map leverageAfter?) := by
    intro α x into read hread
    obtain ⟨g, e | r⟩ := x
    · rfl
    · exact congrArg (fun ratio => (g, Except.ok ratio)) (hread r).symm
  cases a with
  | rebalance =>
    cases h
    exact key (f.rebalance keeper venue) .report _ fun r => rfl
  | iterate =>
    cases h
    exact key (f.iterate keeper venue) .iteration _ fun r => by cases r <;> rfl
  | ripcord =>
    cases h
    exact key (f.ripcord keeper venue) .rescue _ fun r => rfl
  | none => cases h

lemma exists_callFor (keeper : Address) (venue : String) (h : a ≠ .none) :
    ∃ c, Fund.callFor keeper venue a = some c := by
  cases a with
  | none => exact absurd rfl h
  | _ => exact ⟨_, rfl⟩

/-- A reason to try again later. -/
inductive PassesWithTime : Refusal → Prop
  | cooldown (venue : String) (remaining : UInt64) :
    PassesWithTime (.cooldownActive venue remaining)
  | stale (feed : Address) (age most : UInt64) : PassesWithTime (.oracleStale feed age most)
  | unneeded (reason : IdleReason) : PassesWithTime (.noRebalanceNeeded reason)

lemma passesWithTime_iff {r : Refusal} : PassesWithTime r ↔ r.isTransient = true := by
  constructor
  · intro h
    cases h <;> rfl
  · intro h
    cases r with
    | cooldownActive venue remaining => exact .cooldown venue remaining
    | oracleStale feed age most => exact .stale feed age most
    | noRebalanceNeeded reason => exact .unneeded reason
    | _ => cases h

/-- How a look ends that made a call: it has executed what it called if the call succeeded, put it
off if the call was refused for a reason that passes with time, and failed as the call did
otherwise. -/
structure Ends (venue : String) (a : Action) (called : Outcome Answer) (ended : Outcome Tick) :
    Prop where
  executed : ∀ ratio, ended = .ok (.executed venue a ratio) ↔
    ∃ answer, called = .ok answer ∧ leverageAfter? answer = ratio
  deferred : ∀ r, ended = .ok (.deferred venue a r) ↔
    called = .error (.refused r) ∧ PassesWithTime r
  failed : ∀ e, ended = .error e ↔
    called = .error e ∧ ∀ r, e = .refused r → ¬ PassesWithTime r

lemma conclude_ends (venue : String) (a : Action) (called : Outcome Answer) :
    Ends venue a called (conclude venue a (called.map leverageAfter?)) := by
  rcases called with (r | x) | answer
  · cases hr : r.isTransient with
    | true =>
      have hp := passesWithTime_iff.2 hr
      have hc : conclude venue a ((Except.error (.refused r) : Outcome Answer).map leverageAfter?)
          = .ok (.deferred venue a r) := if_pos hr
      rw [hc]
      constructor <;> simp [hp]
    | false =>
      have hp : ¬ PassesWithTime r := fun h => by simp [passesWithTime_iff.1 h] at hr
      have hc : conclude venue a ((Except.error (.refused r) : Outcome Answer).map leverageAfter?)
          = .error (.refused r) := if_neg (by simp [hr])
      rw [hc]
      constructor <;> simp [hp]
  · have hc : conclude venue a ((Except.error (.crashed x) : Outcome Answer).map leverageAfter?)
        = .error (.crashed x) := rfl
    rw [hc]
    constructor <;> simp
  · have hc : conclude venue a ((Except.ok answer : Outcome Answer).map leverageAfter?)
        = .ok (.executed venue a (leverageAfter? answer)) := rfl
    rw [hc]
    constructor <;> simp

/-- **A look makes the call that it picks**, and nothing else. -/
theorem tick_of_pick {xs : List (String × Action)} (hxs : f.actions = .ok xs)
    (hp : pick? xs = some (venue, a)) (hc : Fund.callFor keeper venue a = some c) :
    tick f keeper = ((f.call c).1, conclude venue a ((f.call c).2.map leverageAfter?)) := by
  unfold tick
  rw [hxs, Fund.attempt_ok, hp]
  dsimp only
  rw [perform_eq hc]

end Call

end Keeper

/-! ### What a fund reports -/

namespace Fund

variable {f : Fund} {xs : List (String × Action)}

/-- The question what to call is answered or refused. -/
lemma actions_steady (f : Fund) : Steady f.actions := by
  unfold actions
  exact steady_lift_bind fun _ _ => steady_bind f.position_steady fun _ _ => steady_ok _

/-- **All that is reported at one time is the same action**: only the cooldown of a venue can be in
its way. -/
theorem actions_alike (h : f.actions = .ok xs) {x y : String × Action} (hx : x ∈ xs) (hy : y ∈ xs)
    (hxa : x.2 ≠ .none) (hya : y.2 ≠ .none) : x.2 = y.2 := by
  obtain ⟨-, p, -, rfl⟩ := actions_eq_ok h
  obtain ⟨d, -, rfl⟩ := List.mem_map.1 hx
  obtain ⟨e, -, rfl⟩ := List.mem_map.1 hy
  have hphase : phaseFor (f.actionFor p d.2.terms) = phaseFor (f.actionFor p e.2.terms) :=
    ((actionFor_eq hxa).1 rfl).2.1.symm.trans ((actionFor_eq hya).1 rfl).2.1
  revert hphase hxa hya
  dsimp only
  cases f.actionFor p d.2.terms <;> cases f.actionFor p e.2.terms <;> simp [phaseFor]

/-- Venues are reported in the order of the bytes of their names. -/
lemma actions_ordered (hf : f.Sound) (h : f.actions = .ok xs) :
    xs.Pairwise fun x y => Text.bytes x.1 < Text.bytes y.1 := by
  obtain ⟨-, p, -, rfl⟩ := actions_eq_ok h
  exact List.pairwise_map.2 (hf.venues.ordered.imp fun hlt => Text.bytes_lt_bytes.2 hlt)

/-- What the keeper picks of a report stands on the first venue that has anything to do. -/
theorem foremost_of_actions (hf : f.Sound) (h : f.actions = .ok xs) {x : String × Action}
    (hx : Keeper.Foremost xs x) {y : String × Action} (hy : y ∈ xs) (hya : y.2 ≠ .none) :
    y.2 = x.2 ∧ (y.1 = x.1 ∨ Text.bytes x.1 < Text.bytes y.1) := by
  obtain ⟨hxa, before, after, rfl, hbefore, -⟩ := hx
  have he : y.2 = x.2 := actions_alike h hy (by simp) hya hxa
  refine ⟨he, ?_⟩
  rcases List.mem_append.1 hy with hy | hy
  · exact absurd (hbefore y hy) (by rw [he]; exact lt_irrefl _)
  · rcases List.mem_cons.1 hy with rfl | hy
    · exact .inl rfl
    · have hafter := (List.pairwise_append.1 (actions_ordered hf h)).2.1
      exact .inr ((List.pairwise_cons.1 hafter).1 y hy)

end Fund

/-! ### A look -/

namespace Keeper

/-- **A look does the most urgent thing there is.**  Of any actions the keeper picks the first of
the most urgent ones, a ripcord before going on with a trade and that before a rebalance, and
nothing only if there is nothing to do.  A look at a fund that cannot say what to do ends in what
the fund says and calls nothing; where there is nothing to do it is idle; otherwise it makes one
call, of the action that all venues with anything to do report alike, on that one of them whose name
comes first in the order of bytes, and it ends as this call does. -/
theorem look_calls_foremost :
    (urgency .none < urgency .rebalance ∧ urgency .rebalance < urgency .iterate ∧
        urgency .iterate < urgency .ripcord) ∧
      (∀ xs, (pick? xs = none ↔ ∀ x ∈ xs, x.2 = .none) ∧
        ∀ x, pick? xs = some x ↔ Foremost xs x) ∧
      ∀ f : Fund, f.Reachable → ∀ keeper,
        (∀ e, f.actions = .error e → tick f keeper = (f, .error e)) ∧
        ∀ xs, f.actions = .ok xs →
          ((∀ x ∈ xs, x.2 = .none) → tick f keeper = (f, .ok .idle)) ∧
          ((∃ x ∈ xs, x.2 ≠ .none) → ∃ venue a c, (venue, a) ∈ xs ∧ a ≠ .none ∧
            (∀ y ∈ xs, y.2 ≠ .none →
              y.2 = a ∧ (y.1 = venue ∨ Text.bytes venue < Text.bytes y.1)) ∧
            Fund.callFor keeper venue a = some c ∧ (tick f keeper).1 = (f.call c).1 ∧
            Ends venue a (f.call c).2 (tick f keeper).2) := by
  refine ⟨by decide, fun xs => ⟨pick?_eq_none, fun x => pick?_eq_some⟩, ?_⟩
  intro f hf keeper
  refine ⟨fun e he => ?_, fun xs hxs => ⟨fun hidle => ?_, fun hbusy => ?_⟩⟩
  · cases e with
    | refused r =>
      unfold tick
      rw [he]
      rfl
    | crashed x => exact absurd he (f.actions_steady x)
  · unfold tick
    rw [hxs, Fund.attempt_ok, pick?_eq_none.2 hidle]
  · obtain ⟨⟨venue, a⟩, hp⟩ : ∃ x, pick? xs = some x := by
      rw [← Option.ne_none_iff_exists', ne_eq, pick?_eq_none]
      push Not
      exact hbusy
    have hfirst := pick?_eq_some.1 hp
    obtain ⟨c, hc⟩ := exists_callFor keeper venue hfirst.1
    have htick := tick_of_pick hxs hp hc
    obtain ⟨ha, before, after, hsplit, -⟩ := id hfirst
    refine ⟨venue, a, c, by rw [hsplit]; simp, ha, fun y hy hya => ?_, hc, ?_, ?_⟩
    · exact Fund.foremost_of_actions hf.sound hxs hfirst hy hya
    · rw [htick]
    · rw [htick]
      exact conclude_ends venue a (f.call c).2

/-- The levered fund with a second venue, whose name comes before that of the first. -/
def Trial.rivals : Fund :=
  Fund.Trial.levered.after
    [.call (.addVenue Fund.Trial.operator "amm" (Venue.exact "amm") Fund.Trial.terms)]

/-- A trade is under way and both venues are rested; the keeper goes on with it on the venue that
was added last, since its name comes first. -/
theorem look_calls_foremost_rivals :
    Trial.rivals.Reachable ∧
      Trial.rivals.actions = .ok [("amm", .iterate), ("dex", .iterate)] ∧
      (tick Trial.rivals Fund.Trial.operator).1
        = (Trial.rivals.call (.iterate Fund.Trial.operator "amm")).1 ∧
      ∃ ratio, (tick Trial.rivals Fund.Trial.operator).2
        = .ok (.executed "amm" .iterate ratio) := by
  have hf : Trial.rivals.Reachable := Fund.Trial.levered_reachable.after _
  have hxs : Trial.rivals.actions = .ok [("amm", .iterate), ("dex", .iterate)] := by decide +kernel
  have hcall : (Trial.rivals.call (.iterate Fund.Trial.operator "amm")).2.isOk = true := by
    decide +kernel
  obtain ⟨venue, a, c, hmem, -, hfirst, hc, hfund, hends⟩ :=
    ((look_calls_foremost.2.2 _ hf Fund.Trial.operator).2 _ hxs).2
      ⟨("amm", .iterate), List.mem_cons_self, nofun⟩
  obtain ⟨rfl, hvenue⟩ := hfirst ("amm", .iterate) List.mem_cons_self nofun
  have hname : venue = "amm" := by
    rcases hvenue with h | h
    · exact h.symm
    · have hlt := Text.bytes_lt_bytes.1 h
      rcases List.mem_cons.1 hmem with he | he
      · cases he
        rfl
      · cases List.mem_singleton.1 he
        exact absurd hlt (by decide)
  subst hname
  cases hc
  refine ⟨hf, hxs, hfund, ?_⟩
  cases hr : (Trial.rivals.call (.iterate Fund.Trial.operator "amm")).2 with
  | ok answer => exact ⟨_, (hends.executed _).2 ⟨answer, hr, rfl⟩⟩
  | error e =>
    rw [hr] at hcall
    cases hcall

end Keeper

end LeverageKeeper
