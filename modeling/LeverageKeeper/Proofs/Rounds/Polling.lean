import LeverageKeeper.Proofs.Rounds.Reply
import Mathlib.Data.Nat.Count

/-!
# What the polls make of the replies

The feeds are asked in their order, over and over, and every question uses up one reply.  So the
questions of all polls can be counted through, and what the feeds are known to say after any number
of questions depends on the replies to these alone: every feed holds what it was last read with
(`Holds`).
-/

namespace LeverageKeeper.Poller

section Questions

variable {p : Poller} {rs : List Reply} {n : ℕ} {feed : Address} {x y : Reading} {s₀ s : State}

/-! ### Questions and replies -/

/-- The reply to question `i`.  When there are none left, the questions fail. -/
def replyTo (rs : List Reply) (i : ℕ) : Reply := rs[i]?.getD .failure

/-- The feed that question `i` is put to. -/
def asked? (p : Poller) (i : ℕ) : Option Address := p.feeds[i % p.feeds.length]?

/-- What question `i` brings to light. -/
def learned? (p : Poller) (rs : List Reply) (i : ℕ) : Option Reading :=
  reading? p.decimals (replyTo rs i)

/-- None of the first `n` questions read the feed. -/
def Unread (p : Poller) (rs : List Reply) (n : ℕ) (feed : Address) : Prop :=
  ∀ i < n, p.asked? i = some feed → p.learned? rs i = none

/-- Of the first `n` questions, the last one that read the feed brought this reading. -/
def LastRead (p : Poller) (rs : List Reply) (n : ℕ) (feed : Address) (x : Reading) : Prop :=
  ∃ i < n, (p.asked? i = some feed ∧ p.learned? rs i = some x) ∧
    ∀ j < n, i < j → p.asked? j = some feed → p.learned? rs j = none

lemma unread_succ :
    p.Unread rs (n + 1) feed ↔
      p.Unread rs n feed ∧ (p.asked? n = some feed → p.learned? rs n = none) := by
  simp only [Unread, Nat.lt_succ_iff_lt_or_eq, or_imp, forall_and, forall_eq]

/-- A question that reads the feed is the last one. -/
lemma lastRead_succ_of_read (ha : p.asked? n = some feed) (hy : p.learned? rs n = some y) :
    p.LastRead rs (n + 1) feed x ↔ y = x := by
  constructor
  · rintro ⟨i, hi, ⟨-, hx⟩, hlast⟩
    rcases Nat.lt_succ_iff_lt_or_eq.1 hi with hlt | rfl
    · exact absurd (hlast n (Nat.lt_succ_self n) hlt ha) (by simp [hy])
    · exact Option.some.inj (hy.symm.trans hx)
  · rintro rfl
    exact ⟨n, Nat.lt_succ_self n, ⟨ha, hy⟩, fun j hj hnj => absurd hj (by omega)⟩

/-- A question that does not read the feed might as well not have been asked. -/
lemma lastRead_succ_of_not (h : p.asked? n = some feed → p.learned? rs n = none) :
    p.LastRead rs (n + 1) feed x ↔ p.LastRead rs n feed x := by
  constructor
  · rintro ⟨i, hi, ⟨ha, hx⟩, hlast⟩
    rcases Nat.lt_succ_iff_lt_or_eq.1 hi with hlt | rfl
    · exact ⟨i, hlt, ⟨ha, hx⟩, fun j hj => hlast j (Nat.lt_succ_of_lt hj)⟩
    · exact absurd (h ha) (by simp [hx])
  · rintro ⟨i, hi, hread, hlast⟩
    refine ⟨i, Nat.lt_succ_of_lt hi, hread, fun j hj hij => ?_⟩
    rcases Nat.lt_succ_iff_lt_or_eq.1 hj with hlt | rfl
    · exact hlast j hlt hij
    · exact h

/-! ### One question -/

/-- The reading that a feed holds after the first `n` questions: the one it was last read with, or
the one it held before if it was not. -/
def Known (p : Poller) (s₀ : State) (n : ℕ) (feed : Address) (x : Reading) : Prop :=
  p.LastRead s₀.replies n feed x ∨
    p.Unread s₀.replies n feed ∧ s₀.readings.get? feed = some x

lemma known_succ_of_read (ha : p.asked? n = some feed) (hy : p.learned? s₀.replies n = some y) :
    p.Known s₀ (n + 1) feed x ↔ y = x := by
  have hread : ¬p.Unread s₀.replies (n + 1) feed := fun hu =>
    absurd ((unread_succ.1 hu).2 ha) (by simp [hy])
  unfold Known
  rw [lastRead_succ_of_read ha hy]
  simp only [hread, false_and, or_false]

lemma known_succ_of_not (h : p.asked? n = some feed → p.learned? s₀.replies n = none) :
    p.Known s₀ (n + 1) feed x ↔ p.Known s₀ n feed x := by
  unfold Known
  rw [lastRead_succ_of_not h, unread_succ, and_iff_left h]

lemma next_eq (s : State) :
    s.next = (replyTo s.replies 0, { s with replies := s.replies.drop 1 }) := by
  obtain ⟨readings, rs⟩ := s
  cases rs <;> rfl

/-- The state is the one after the first `n` questions. -/
structure Holds (p : Poller) (s₀ : State) (n : ℕ) (s : State) : Prop where
  replies : s.replies = s₀.replies.drop n
  readings : ∀ feed x, s.readings.get? feed = some x ↔ p.Known s₀ n feed x

lemma holds_zero (p : Poller) (s : State) : p.Holds s 0 s where
  replies := rfl
  readings := by simp [Known, LastRead, Unread]

lemma Holds.next (h : p.Holds s₀ n s) :
    s.next = (replyTo s₀.replies n, { s with replies := s₀.replies.drop (n + 1) }) := by
  rw [next_eq, h.replies, List.drop_drop]
  unfold replyTo
  rw [List.getElem?_drop, Nat.add_zero]

/-- **One question** more. -/
lemma Holds.read (h : p.Holds s₀ n s) (ha : p.asked? n = some feed) :
    p.Holds s₀ (n + 1) (read p.decimals s feed).1 ∧
      (Poller.read p.decimals s feed).2 = (p.learned? s₀.replies n).isSome := by
  unfold Poller.read
  rw [h.next]
  dsimp only
  cases hy : p.learned? s₀.replies n with
  | none =>
    rw [show reading? p.decimals (replyTo s₀.replies n) = none from hy]
    refine ⟨⟨rfl, fun other x => ?_⟩, rfl⟩
    rw [known_succ_of_not fun _ => hy]
    exact h.readings other x
  | some y =>
    rw [show reading? p.decimals (replyTo s₀.replies n) = some y from hy]
    refine ⟨⟨rfl, fun other x => ?_⟩, rfl⟩
    by_cases he : other = feed
    · subst he
      rw [Feeds.get?_set_self, Option.some_inj, known_succ_of_read ha hy]
    · -- the question was not put to the other feed
      have hother : p.asked? n = some other → p.learned? s₀.replies n = none := fun ho =>
        absurd (Option.some.inj (ho.symm.trans ha)) he
      rw [Feeds.get?_set_of_ne _ _ he, known_succ_of_not hother]
      exact h.readings other x

/-! ### One poll and all polls -/

/-- **One poll**, from any place of its round on. -/
lemma Holds.pollAll (before : List Address) {rest : List Address}
    (hsplit : before ++ rest = p.feeds) {k : ℕ}
    (h : p.Holds s₀ (k * p.feeds.length + before.length) s) :
    p.Holds s₀ ((k + 1) * p.feeds.length) (pollAll p.decimals rest s).1 ∧
      (Poller.pollAll p.decimals rest s).2 = Nat.count
        (fun j => (p.learned? s₀.replies (k * p.feeds.length + before.length + j)).isSome)
        rest.length := by
  induction rest generalizing before s with
  | nil =>
    rw [List.append_nil] at hsplit
    rw [hsplit, ← Nat.succ_mul] at h
    exact ⟨h, rfl⟩
  | cons feed rest ih =>
    have hlt : before.length < p.feeds.length := by
      rw [← hsplit, List.length_append, List.length_cons]
      omega
    have ha : p.asked? (k * p.feeds.length + before.length) = some feed := by
      unfold asked?
      rw [Nat.mul_add_mod_of_lt hlt, ← hsplit]
      simp
    obtain ⟨hone, hdone⟩ := h.read ha
    obtain ⟨hall, hcount⟩ := ih (before ++ [feed]) (by simpa using hsplit)
      (by simpa [Nat.add_assoc] using hone)
    refine ⟨hall, ?_⟩
    have hrest (j : ℕ) : k * p.feeds.length + (before ++ [feed]).length + j
        = k * p.feeds.length + before.length + (j + 1) := by
      rw [List.length_append, List.length_singleton]
      omega
    simp only [hrest] at hcount
    unfold Poller.pollAll
    dsimp only
    rw [hdone, hcount, List.length_cons, Nat.count_succ']
    cases (p.learned? s₀.replies (k * p.feeds.length + before.length)).isSome with
    | true => rfl
    | false => rfl

/-- **All polls.** -/
theorem polled_holds (p : Poller) (s : State) (n : ℕ) :
    p.Holds s (n * p.feeds.length) (p.polled s n) := by
  induction n with
  | zero =>
    rw [Nat.zero_mul]
    exact holds_zero p s
  | succ n ih => exact (Holds.pollAll [] rfl ih).1

/-- A question that fails changes no reading. -/
lemma read_of_failed {d : ℕ} (h : (read d s feed).2 = false) :
    (read d s feed).1.readings = s.readings := by
  unfold read at h ⊢
  rw [next_eq] at h ⊢
  dsimp only at h ⊢
  split at h
  next => cases h
  next => rfl

end Questions

/-- **Every feed holds what it was last read with.**  A reply is good for a reading if it is that of
a round, with an answer of 128 bits, and then the reading is that of the round.  The polls put their
questions to the feeds in the order given, one after the other, and count those that are answered by
readings.  After any number of polls a feed holds the reading that the last such answer of its own
brought; a feed that has given none holds what it did before, and questions that fail change
nothing. -/
theorem polls_hold_last (p : Poller) :
    (∀ r x, reading? p.decimals r = some x ↔
      ∃ bytes round, r = .data bytes ∧ round.Told bytes ∧ Round.Fits round.answer ∧
        x.Of round p.decimals) ∧
    (∀ r, reading? p.decimals r = none ↔
      r = .failure ∨ ∃ bytes, r = .data bytes ∧
        (bytes.length < 160 ∨ ∃ round : Round, round.Told bytes ∧ ¬Round.Fits round.answer)) ∧
    (∀ s feed, (read p.decimals s feed).2 = false →
      (read p.decimals s feed).1.readings = s.readings) ∧
    ∀ s n,
      (p.polled s n).replies = s.replies.drop (n * p.feeds.length) ∧
      (p.poll (p.polled s n)).2 = Nat.count
        (fun j => (p.learned? s.replies (n * p.feeds.length + j)).isSome) p.feeds.length ∧
      ∀ feed x, (p.polled s n).readings.get? feed = some x ↔
        p.LastRead s.replies (n * p.feeds.length) feed x ∨
          p.Unread s.replies (n * p.feeds.length) feed ∧ s.readings.get? feed = some x := by
  refine ⟨fun r x => reading?_eq_some, fun r => reading?_eq_none, fun s feed => read_of_failed,
    fun s n => ?_⟩
  have h := polled_holds p s n
  exact ⟨h.replies, (Holds.pollAll [] rfl h).2, h.readings⟩

/-- The reply of a contract in its first round. -/
def Trial.reply (answer : ℤ) (updatedAt : ℕ) : Reply :=
  .data ([1, Round.unsigned answer, 0, updatedAt, 1].flatMap Reply.word)

/-- A feed that is asked twice in every poll, with another one in between. -/
def Trial.poller : Poller := ⟨[⟨1⟩, ⟨2⟩, ⟨1⟩], 8⟩

/-- The replies for two polls: an answer that is too large by one among those to the first, and one
that tells of a round among those to the second. -/
def Trial.state : State :=
  ⟨.empty, [reply 5 100, reply (-7) (2 ^ 64), reply (2 ^ 127) 100, .data [], .failure,
    reply (-2 ^ 127) 200]⟩

/-- The last answer of the first feed counts, and the first and only one of the second. -/
theorem polls_hold_last_repeated :
    let held := (Trial.poller.polled Trial.state 2).readings
    (Trial.poller.poll Trial.state).2 = 2 ∧
      (Trial.poller.poll (Trial.poller.polled Trial.state 1)).2 = 1 ∧
      held.get? ⟨1⟩ = some ⟨-2 ^ 127, 8, 200⟩ ∧ held.get? ⟨2⟩ = some ⟨-7, 8, 0xffffffffffffffff⟩ ∧
      (read Trial.poller.decimals ⟨held, []⟩ ⟨1⟩).1.readings = held := by
  obtain ⟨-, -, hfailed, hpolls⟩ := polls_hold_last Trial.poller
  obtain ⟨-, hfirst, -⟩ := hpolls Trial.state 0
  obtain ⟨-, hsecond, -⟩ := hpolls Trial.state 1
  obtain ⟨-, -, hheld⟩ := hpolls Trial.state 2
  have hlast (f : Feeds) : (read Trial.poller.decimals ⟨f, []⟩ ⟨1⟩).1.readings = f :=
    hfailed ⟨f, []⟩ ⟨1⟩ rfl
  refine ⟨hfirst.trans ?_, hsecond.trans ?_, (hheld _ _).2 (.inl ⟨5, ?_⟩),
    (hheld _ _).2 (.inl ⟨1, ?_⟩), hlast _⟩ <;> decide +kernel

end LeverageKeeper.Poller
