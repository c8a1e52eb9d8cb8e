import LeverageKeeper.Keeper.Session
import LeverageKeeper.Proofs.Fund.Reachable
import Mathlib.Algebra.BigOperators.Group.Finset.Basic
import Mathlib.Data.List.DropRight

/-!
# The pace of the keeper

The keeper waits for a look, looks, and waits again.  What it has to remember for that is a count of
the failed looks in a row, so its waits are a matter of the last five looks alone.  A session is
taken apart into its turns: looks, heartbeats, and whatever else happens to its fund, which may be
anything.  After any turns the count is the number of failed looks at the end of those that were
made, and the next look is due one wait after the last one (`Paced`); from this the times of all
looks follow.
-/

namespace LeverageKeeper.Keeper

/-- A look of the keeper: its time, and the fund as it was found. -/
structure Look where
  time : ℕ
  fund : Fund

/-- The look ended in an error.  One that is idle, or that puts off or clears something, did
not. -/
def Look.failed (s : Setup) (l : Look) : Bool := !(tick l.fund s.keeper).2.isOk

section Setup

variable {s : Setup} {l : Look} {ls : List Look}

/-! ### Failures in a row -/

/-- The number of failed looks at the end. -/
def streak (s : Setup) (ls : List Look) : ℕ := (ls.rtakeWhile (Look.failed s)).length

lemma streak_concat :
    streak s (ls ++ [l]) = if l.failed s = true then streak s ls + 1 else 0 := by
  unfold streak
  rw [List.rtakeWhile_concat]
  split <;> simp

/-- The last five looks were all made in vain. -/
def Exhausted (s : Setup) (ls : List Look) : Prop :=
  ∃ earlier last, ls = earlier ++ last ∧ last.length = 5 ∧ ∀ l ∈ last, l.failed s = true

lemma exhausted_iff : Exhausted s ls ↔ 5 ≤ streak s ls := by
  constructor
  · rintro ⟨earlier, last, rfl, hlast, hfailed⟩
    unfold streak List.rtakeWhile
    rw [List.reverse_append, List.length_reverse,
      List.takeWhile_append_of_pos (by simpa using hfailed), List.length_append,
      List.length_reverse, hlast]
    exact Nat.le_add_right _ _
  · intro h
    have hsplit := List.rdropWhile_append_rtakeWhile (p := Look.failed s) (l := ls)
    refine ⟨ls.rdropWhile (Look.failed s) ++ (ls.rtakeWhile (Look.failed s)).rdrop 5,
      (ls.rtakeWhile (Look.failed s)).rtake 5, ?_, ?_, fun l hl => ?_⟩
    · rw [List.append_assoc, List.rdrop, List.rtake, List.take_append_drop, hsplit]
    · unfold streak at h
      rw [List.rtake, List.length_drop]
      omega
    · exact List.mem_rtakeWhile_imp (List.mem_of_mem_drop hl)

instance : Decidable (Exhausted s ls) := decidable_of_iff _ exhausted_iff.symm

/-- The wait for the look that comes after the given ones. -/
def waitAfter (s : Setup) (ls : List Look) : ℕ :=
  if Exhausted s ls then 4 * s.pause else s.pause

lemma waitAfter_of_success (h : l.failed s = false) : waitAfter s (ls ++ [l]) = s.pause := by
  refine if_neg fun he => ?_
  rw [exhausted_iff, streak_concat, h] at he
  exact absurd he (by simp)

/-- The count of failures says how long to wait, unless it has run over. -/
lemma wait_eq_waitAfter (h : streak s ls < 2 ^ 32) :
    wait s.pause (UInt32.ofNat (streak s ls)) = waitAfter s ls := by
  have hle : patience ≤ UInt32.ofNat (streak s ls) ↔ Exhausted s ls := by
    rw [exhausted_iff, UInt32.le_iff_toNat_le, UInt32.toNat_ofNat', Nat.mod_eq_of_lt h]
    rfl
  unfold wait waitAfter
  simp only [hle, slowdown, Nat.mul_comm]

/-- No row of failed looks is longer than the keeper can count. -/
def Countable (s : Setup) (ls : List Look) : Prop :=
  ∀ row, row <:+: ls → (∀ l ∈ row, l.failed s = true) → row.length < 2 ^ 32

lemma Countable.streak_take (h : Countable s ls) (k : ℕ) : streak s (ls.take k) < 2 ^ 32 :=
  h _ ((List.rtakeWhile_suffix (p := Look.failed s) _).isInfix.trans (List.take_prefix _ _).isInfix)
    fun _ hl => List.mem_rtakeWhile_imp hl

/-! ### Turns -/

/-- What comes next in a session.  Where it is no look and no heartbeat, the fund may have become
any other. -/
inductive Turn where
  | look
  | beat
  | other (f : Fund)

namespace Session

variable {w : Session}

/-- The session after a turn.  After a crash there are no more looks. -/
def next (s : Setup) (w : Session) : Turn → Session
  | .look => if w.crash.isNone then w.look s else w
  | .beat => w.beat s
  | .other f => { w with fund := f }

def after (s : Setup) (w : Session) (ts : List Turn) : Session := ts.foldl (next s) w

/-- The look that a turn is, if it is one. -/
def lookAt? (w : Session) : Turn → Option Look
  | .look => if w.crash.isNone then some ⟨w.nextLook, w.fund⟩ else none
  | _ => none

/-- The looks of the turns, in their order. -/
def seen (s : Setup) (w : Session) : List Turn → List Look
  | [] => []
  | t :: ts => (w.lookAt? t).toList ++ seen s (w.next s t) ts

lemma after_concat (ts : List Turn) (t : Turn) :
    w.after s (ts ++ [t]) = (w.after s ts).next s t := List.foldl_concat ..

lemma after_append (ts ts' : List Turn) : w.after s (ts ++ ts') = (w.after s ts).after s ts' :=
  List.foldl_append ..

lemma seen_append (ts ts' : List Turn) :
    w.seen s (ts ++ ts') = w.seen s ts ++ (w.after s ts).seen s ts' := by
  induction ts generalizing w with
  | nil => rfl
  | cons t ts ih =>
    rw [List.cons_append, seen, seen, ih, List.append_assoc]
    rfl

lemma seen_concat (ts : List Turn) (t : Turn) :
    w.seen s (ts ++ [t]) = w.seen s ts ++ ((w.after s ts).lookAt? t).toList := by
  rw [seen_append]
  simp [seen]

/-! ### One turn and all turns -/

/-- The time of the last look, or of the start. -/
def lastTime (ls : List Look) : ℕ := (ls.getLast?.map Look.time).getD 0

lemma lastTime_concat : lastTime (ls ++ [l]) = l.time := by
  unfold lastTime
  rw [List.getLast?_concat]
  rfl

/-- The session has made the given looks: it counts those that failed at the end, and the next one
is due one wait after the last. -/
structure Paced (s : Setup) (ls : List Look) (w : Session) : Prop where
  failures : w.failures = UInt32.ofNat (streak s ls)
  nextLook : w.nextLook = lastTime ls + wait s.pause w.failures

lemma start_paced (s : Setup) (f : Fund) : Paced s [] (s.start f) :=
  ⟨rfl, (Nat.zero_add _).symm⟩

/-- A look that does not crash starts the next wait. -/
lemma look_paced (h : Paced s ls w) (hlive : (w.look s).crash = none) :
    Paced s (ls ++ [⟨w.nextLook, w.fund⟩]) (w.look s) := by
  have hfailed : Look.failed s ⟨w.nextLook, w.fund⟩ = !(tick w.fund s.keeper).2.isOk := rfl
  unfold look at hlive ⊢
  cases ht : tick w.fund s.keeper with
  | mk f r =>
    rw [ht] at hfailed hlive
    dsimp only at hfailed hlive ⊢
    rcases r with (r | c) | t
    · have hstreak : streak s (ls ++ [⟨w.nextLook, w.fund⟩]) = streak s ls + 1 := by
        rw [streak_concat]
        exact if_pos hfailed
      refine ⟨?_, ?_⟩
      · rw [hstreak, UInt32.ofNat_add, ← h.failures]
        rfl
      · rw [lastTime_concat]
    · cases hlive
    · have hstreak : streak s (ls ++ [⟨w.nextLook, w.fund⟩]) = 0 := by
        rw [streak_concat]
        exact if_neg (by rw [hfailed]; simp [Except.isOk, Except.toBool])
      refine ⟨?_, ?_⟩
      · rw [hstreak]
        rfl
      · rw [lastTime_concat]

/-- **One turn** keeps the pace. -/
lemma next_paced (h : w.crash = none → Paced s ls w) (t : Turn)
    (hlive : (w.next s t).crash = none) :
    Paced s (ls ++ (w.lookAt? t).toList) (w.next s t) := by
  cases t with
  | look =>
    unfold next at hlive ⊢
    unfold lookAt?
    dsimp only at hlive ⊢
    split at hlive
    next hc =>
      rw [if_pos hc, if_pos hc]
      exact look_paced (h (by simpa using hc)) hlive
    next hc => exact absurd (by simpa using hlive) hc
  | _ =>
    -- what else happens does not touch what is counted
    obtain ⟨hf, hn⟩ := h hlive
    show Paced s (ls ++ []) _
    rw [List.append_nil]
    exact ⟨hf, hn⟩

/-- **All turns** keep the pace. -/
theorem after_paced (f : Fund) (ts : List Turn) (hlive : ((s.start f).after s ts).crash = none) :
    Paced s ((s.start f).seen s ts) ((s.start f).after s ts) := by
  -- from the right, since a crash is for good and so there was none before the last turn
  induction ts using List.reverseRecOn with
  | nil => exact start_paced s f
  | append_singleton ts t ih =>
    rw [seen_concat, after_concat]
    rw [after_concat] at hlive
    exact next_paced ih t hlive

/-! ### The times of the looks -/

/-- Each look comes one wait after the look before it. -/
def Timed (s : Setup) (ls : List Look) : Prop :=
  ∀ k (hk : k < ls.length),
    ls[k].time = lastTime (ls.take k) + wait s.pause (UInt32.ofNat (streak s (ls.take k)))

lemma Timed.concat (h : Timed s ls)
    (hl : l.time = lastTime ls + wait s.pause (UInt32.ofNat (streak s ls))) :
    Timed s (ls ++ [l]) := by
  intro k hk
  rw [List.length_append, List.length_singleton] at hk
  rcases Nat.lt_succ_iff_lt_or_eq.1 hk with hlt | rfl
  · rw [List.getElem_append_left hlt, List.take_append_of_le_length hlt.le]
    exact h k hlt
  · rw [List.getElem_concat_length rfl, List.take_left]
    exact hl

theorem seen_timed (f : Fund) (ts : List Turn) : Timed s ((s.start f).seen s ts) := by
  induction ts using List.reverseRecOn with
  | nil => exact fun k hk => absurd hk (Nat.not_lt_zero k)
  | append_singleton ts t ih =>
    rw [seen_concat]
    cases hl : ((s.start f).after s ts).lookAt? t with
    | none =>
      rw [Option.toList_none, List.append_nil]
      exact ih
    | some l =>
      -- there was no crash before, or there would be no look
      obtain ⟨hc, rfl⟩ : ((s.start f).after s ts).crash = none ∧
          Look.mk ((s.start f).after s ts).nextLook ((s.start f).after s ts).fund = l := by
        cases t with
        | look => simpa [lookAt?] using hl
        | _ => cases hl
      obtain ⟨hfailures, hnext⟩ := after_paced f ts hc
      rw [hfailures] at hnext
      exact ih.concat hnext

lemma lastTime_take {k : ℕ} (hk : k < ls.length) : lastTime (ls.take (k + 1)) = ls[k].time := by
  rw [List.take_succ_eq_append_getElem hk, lastTime_concat]

/-- The time of a look is the sum of the waits until then. -/
lemma Timed.time_eq_sum (h : Timed s ls) (hc : Countable s ls) (k : ℕ) (hk : k < ls.length) :
    ls[k].time = ∑ i ∈ Finset.range (k + 1), waitAfter s (ls.take i) := by
  induction k with
  | zero =>
    rw [h 0 hk, wait_eq_waitAfter (hc.streak_take 0), Finset.sum_range_one]
    exact Nat.zero_add _
  | succ k ih =>
    have hlt : k < ls.length := Nat.lt_of_succ_lt hk
    rw [h (k + 1) hk, wait_eq_waitAfter (hc.streak_take _), lastTime_take hlt, ih hlt,
      ← Finset.sum_range_succ]

lemma Timed.lastTime_eq_sum (h : Timed s ls) (hc : Countable s ls) :
    lastTime ls = ∑ i ∈ Finset.range ls.length, waitAfter s (ls.take i) := by
  cases hn : ls.length with
  | zero =>
    rw [List.length_eq_zero_iff.1 hn]
    rfl
  | succ k =>
    have hk : k < ls.length := by omega
    have hall : ls.take (k + 1) = ls := by rw [← hn, List.take_length]
    rw [← h.time_eq_sum hc k hk, ← lastTime_take hk, hall]

/-! ### Sessions -/

lemma catchUp_turns (time fuel : ℕ) (w : Session) : ∃ ts, catchUp s time fuel w = w.after s ts := by
  induction fuel generalizing w with
  | zero => exact ⟨[], rfl⟩
  | succ fuel ih =>
    unfold catchUp
    split
    next =>
      obtain ⟨ts, hts⟩ := ih (w.beat s)
      exact ⟨.beat :: ts, hts⟩
    next =>
      split
      next hdue =>
        obtain ⟨ts, hts⟩ := ih (w.look s)
        have hlive : w.crash.isNone = true := (of_decide_eq_true hdue).1
        refine ⟨.look :: ts, hts.trans ?_⟩
        show _ = (w.next s .look).after s ts
        rw [show w.next s .look = w.look s from if_pos hlive]
      next => exact ⟨[], rfl⟩

lemma keep_turns {α : Type} (appointments : List (Appointment α)) (w : Session) :
    ∃ ts, (w.keep s appointments).1 = w.after s ts := by
  induction appointments generalizing w with
  | nil => exact ⟨[], rfl⟩
  | cons a as ih =>
    obtain ⟨before, hbefore⟩ := catchUp_turns (s := s) a.time (2 * a.time + 2) w
    obtain ⟨rest, hrest⟩ := ih { w.upTo s a.time with fund := (a.action (w.upTo s a.time).fund).1 }
    refine ⟨before ++ .other (a.action (w.upTo s a.time).fund).1 :: rest, ?_⟩
    rw [after_append, ← hbefore]
    exact hrest

/-- The session keeps a record of the times at which it found the fund live. -/
lemma looks_after (ts : List Turn) :
    (w.after s ts).looks
      = (((w.seen s ts).filter fun l => !l.fund.halted).map Look.time).reverse ++ w.looks := by
  have hnext : ∀ (w : Session) (t : Turn), (w.next s t).looks
      = (((w.lookAt? t).toList.filter fun l => !l.fund.halted).map Look.time).reverse
        ++ w.looks := by
    intro w t
    cases t with
    | look =>
      unfold next lookAt?
      dsimp only
      split
      next =>
        have hlook : (w.look s).looks
            = if w.fund.halted then w.looks else w.nextLook :: w.looks := by
          unfold look
          dsimp only
          split <;> rfl
        rw [hlook]
        cases hh : w.fund.halted <;> simp [hh]
      next => rfl
    | _ => rfl
  induction ts generalizing w with
  | nil => rfl
  | cons t ts ih =>
    show ((w.next s t).after s ts).looks = _
    rw [ih, hnext, seen, List.filter_append, List.map_append, List.reverse_append,
      List.append_assoc]

/-- An upper bound for the looks and heartbeats before `time`. -/
def remaining (time : ℕ) (w : Session) : ℕ :=
  (if w.crash.isNone then time - w.nextLook else 0)
    + (w.nextBeat.map fun t => time - t).getD 0

lemma wait_pos (failures : UInt32) : 0 < wait s.pause failures := by
  have hpause : 0 < s.pause := Nat.le_max_left 1 s.interval
  unfold wait
  split
  · exact Nat.mul_pos hpause (by decide)
  · exact hpause

lemma remaining_beat {time : ℕ} (h : w.beatIsDue time = true) :
    remaining time (w.beat s) < remaining time w := by
  unfold beatIsDue at h
  split at h
  next t ht =>
    have hlt : t < time := (of_decide_eq_true h).1
    have hstep : 0 < Nat.max 1 (s.heartbeat.getD 1) := Nat.le_max_left 1 _
    unfold remaining beat
    simp only [ht, Option.map_some, Option.getD_some]
    omega
  next => cases h

lemma remaining_look {time : ℕ} (h : w.lookIsDue time = true) :
    remaining time (w.look s) < remaining time w := by
  obtain ⟨hlive, hlt⟩ := of_decide_eq_true h
  have hpos := fun failures => wait_pos (s := s) failures
  unfold remaining look
  rw [if_pos hlive]
  rcases tick w.fund s.keeper with ⟨f, (r | c) | t⟩ <;> dsimp only
  · have := hpos (w.failures + 1)
    rw [if_pos hlive]
    omega
  · rw [Option.isNone_some, if_neg (by decide)]
    omega
  · have := hpos 0
    rw [if_pos hlive]
    omega

lemma catchUp_caughtUp {time fuel : ℕ} (h : remaining time w ≤ fuel) :
    (catchUp s time fuel w).lookIsDue time = false := by
  induction fuel generalizing w with
  | zero =>
    unfold catchUp lookIsDue
    rw [decide_eq_false_iff_not]
    rintro ⟨hlive, hlt⟩
    unfold remaining at h
    rw [if_pos hlive] at h
    omega
  | succ fuel ih =>
    unfold catchUp
    split
    next hdue => exact ih (Nat.le_of_lt_succ ((remaining_beat hdue).trans_le h))
    next =>
      split
      next hdue => exact ih (Nat.le_of_lt_succ ((remaining_look hdue).trans_le h))
      next hdue => exact Bool.not_eq_true _ ▸ hdue

/-- **No look that is due is left out.** -/
theorem upTo_caughtUp (w : Session) (s : Setup) (time : ℕ) :
    (w.upTo s time).crash = none → time ≤ (w.upTo s time).nextLook := by
  have hle : remaining time w ≤ 2 * time + 2 := by
    unfold remaining
    cases w.nextBeat <;> simp only [Option.map_none, Option.map_some, Option.getD_none,
      Option.getD_some] <;> split <;> omega
  intro hlive
  have hdue : (w.upTo s time).lookIsDue time = false := catchUp_caughtUp hle
  by_contra hlt
  exact absurd ⟨by rw [hlive]; rfl, Nat.not_le.1 hlt⟩ (of_decide_eq_false hdue)

end Session

end Setup

/-- **The keeper slows down after five failed looks in a row, and recovers with the first that does
not fail.**  Every session is a run of turns, records the looks that found the fund live, and leaves
out none that is due.  Over any turns, whatever becomes of the fund between the looks and whatever
comes of each look, a look comes one wait after the one before it, the first one a wait after the
start; the wait is four times the pause if the last five looks all failed, and the pause otherwise.
The count of failures is one of 32 bits, which it must not run over. -/
theorem looks_paced (s : Setup) (f : Fund) :
    (0 < s.interval → s.pause = s.interval) ∧
      (∀ {α : Type} (appointments : List (Appointment α)) (stop : ℕ), ∃ ts,
        (s.session f appointments stop).1 = (s.start f).after s ts ∧
          (s.session f appointments stop).1.looks.reverse
            = (((s.start f).seen s ts).filter fun l => !l.fund.halted).map Look.time ∧
          ((s.session f appointments stop).1.crash = none →
            stop ≤ (s.session f appointments stop).1.nextLook)) ∧
      ∀ ts, Countable s ((s.start f).seen s ts) →
        let looks := (s.start f).seen s ts
        (∀ k (hk : k < looks.length),
          looks[k].time = ∑ i ∈ Finset.range (k + 1), waitAfter s (looks.take i)) ∧
        (((s.start f).after s ts).crash = none → ((s.start f).after s ts).nextLook
          = ∑ i ∈ Finset.range (looks.length + 1), waitAfter s (looks.take i)) ∧
        ∀ k (hk : k + 1 < looks.length), looks[k].failed s = false →
          looks[k + 1].time = looks[k].time + s.pause := by
  refine ⟨fun h => Nat.max_eq_right h, fun appointments stop => ?_, fun ts hc => ?_⟩
  · obtain ⟨before, hbefore⟩ := Session.keep_turns (s := s) appointments (s.start f)
    obtain ⟨rest, hrest⟩ := Session.catchUp_turns (s := s) stop (2 * stop + 2)
      ((s.start f).keep s appointments).1
    have hturns : (s.session f appointments stop).1 = (s.start f).after s (before ++ rest) := by
      rw [Session.after_append, ← hbefore, ← hrest]
      rfl
    refine ⟨before ++ rest, hturns, ?_, Session.upTo_caughtUp _ s stop⟩
    rw [hturns, Session.looks_after, List.reverse_append, List.reverse_reverse]
    rfl
  · intro looks
    have htimed : Session.Timed s looks := Session.seen_timed f ts
    have hsum := htimed.time_eq_sum hc
    refine ⟨hsum, fun hlive => ?_, fun k hk hok => ?_⟩
    · obtain ⟨hfailures, hnext⟩ := Session.after_paced f ts hlive
      have hstreak := hc.streak_take looks.length
      rw [List.take_length] at hstreak
      rw [hnext, hfailures, wait_eq_waitAfter hstreak, Finset.sum_range_succ, List.take_length,
        htimed.lastTime_eq_sum hc]
    · have hlt : k < looks.length := Nat.lt_of_succ_lt hk
      rw [hsum (k + 1) hk, Finset.sum_range_succ, ← hsum k hlt,
        List.take_succ_eq_append_getElem hlt, waitAfter_of_success hok]

/-- The levered fund, with readings that are hours old. -/
def Trial.stale : Fund := Fund.Trial.levered.after [.event (.advance 10000)]

/-- Six looks at the stale fund, and two after its readings have been renewed. -/
def Trial.turns : List Turn :=
  .other Trial.stale :: List.replicate 6 .look ++ [.other Fund.Trial.levered, .look, .look]

/-- A look every second; the sixth is late and so is the seventh, which does not fail. -/
theorem looks_paced_recovery :
    let s : Setup := ⟨Fund.Trial.operator, 1000, none⟩
    let looks := (s.start Trial.stale).seen s Trial.turns
    looks.map (Look.failed s) = List.replicate 6 true ++ [false, false] ∧
      looks.map Look.time = [1000, 2000, 3000, 4000, 5000, 9000, 13000, 14000] := by
  intro s looks
  have hfailed : looks.map (Look.failed s) = List.replicate 6 true ++ [false, false] := by
    decide +kernel
  have hlength : looks.length = 8 := by
    rw [← List.length_map, hfailed]
    rfl
  have hsum : ∀ k < 8, ∑ i ∈ Finset.range (k + 1), waitAfter s (looks.take i)
      = [1000, 2000, 3000, 4000, 5000, 9000, 13000, 14000].getD k 0 := by
    decide +kernel
  have hcount : Countable s looks := fun row hrow _ =>
    (hrow.length_le.trans_eq hlength).trans_lt (by decide)
  have htimes := ((looks_paced s Trial.stale).2.2 Trial.turns hcount).1
  refine ⟨hfailed, List.ext_getElem (by simp [hlength]) fun k hk hk' => ?_⟩
  rw [List.getElem_map, htimes k (by simpa using hk), hsum k hk', List.getElem_eq_getD 0]

end LeverageKeeper.Keeper
