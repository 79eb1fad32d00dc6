import Mathlib.Data.ENat.Basic
import Mathlib.Data.List.Forall2
import Mathlib.Data.List.TakeWhile
import RecipeSearch.Search.Schedule

/-!
# When terms are started and taken in

A term starts when the window has room for it, and is taken in after the terms before it. So a turn is over no later
than those behind it (`InOrder`), and the terms that have been started when a cancellation is noticed are a window ahead
at most of those that have been taken in (`Cancel.started_le_cutoff`).

With a wider window every term waits for a turn further in front, and **no term starts later or is taken in later**
(`schedule_noLater`). What a search has taken in before an instant can therefore only become more when the window is
wider or the instant is later (`taken_le_taken`).
-/

namespace RecipeSearch.Search

/-! ## When turns are over -/

/-- When the turn in the place `i` is over, at the start if there is none. -/
def doneAt (turns : List Turn) (i : Nat) : Nat :=
  (turns[i]?.map Turn.done).getD 0

/-- A turn is over no later than the turns behind it. -/
def InOrder (turns : List Turn) : Prop :=
  turns.Pairwise fun a b => a.done ≤ b.done

/-- A turn that starts no later and is over no later than another one. -/
structure Turn.NoLater (a b : Turn) : Prop where
  start : a.start ≤ b.start
  done : a.done ≤ b.done

variable {window wide : Nat} {past early : List Turn}

theorem start_nextTurn (window duration : Nat) (past : List Turn) :
    (nextTurn window past duration).start =
      if past.length < window then 0 else doneAt past (past.length - window) :=
  rfl

theorem done_nextTurn (window duration : Nat) (past : List Turn) :
    (nextTurn window past duration).done =
      max ((nextTurn window past duration).start + duration) (doneAt past (past.length - 1)) := by
  rw [doneAt, ← List.getLast?_eq_getElem?]
  rfl

theorem InOrder.doneAt_le (h : InOrder past) {i j : Nat} (hij : i ≤ j) (hj : j < past.length) :
    doneAt past i ≤ doneAt past j := by
  have hi : i < past.length := Nat.lt_of_le_of_lt hij hj
  rcases Nat.lt_or_eq_of_le hij with hlt | rfl
  · simpa [doneAt, hi, hj] using List.pairwise_iff_getElem.1 h i j hi hj hlt
  · exact Nat.le_refl _

/-- The next turn is over no earlier than those before it. -/
theorem InOrder.nextTurn (h : InOrder past) (window duration : Nat) :
    InOrder (past ++ [nextTurn window past duration]) := by
  refine List.pairwise_append.2 ⟨h, List.pairwise_singleton _ _, fun a ha b hb => ?_⟩
  rw [List.mem_singleton.1 hb, done_nextTurn]
  obtain ⟨i, hi, rfl⟩ := List.mem_iff_getElem.1 ha
  have hlast : doneAt past i ≤ doneAt past (past.length - 1) := h.doneAt_le (by omega) (by omega)
  rw [doneAt, List.getElem?_eq_getElem hi] at hlast
  exact Nat.le_trans hlast (Nat.le_max_right _ _)

theorem inOrder_scheduleFrom (h : InOrder past) (durations : List Nat) :
    InOrder (past ++ scheduleFrom window past durations) := by
  induction durations generalizing past with
  | nil =>
    rw [scheduleFrom, List.append_nil]
    exact h
  | cons duration durations ih =>
    rw [scheduleFrom, List.append_cons]
    exact ih (h.nextTurn window duration)

theorem inOrder_schedule (window : Nat) (durations : List Nat) : InOrder (schedule window durations) :=
  inOrder_scheduleFrom List.Pairwise.nil durations

/-- Behind the turns that are over before an instant there are none. -/
theorem InOrder.le_doneAt {turns : List Turn} (h : InOrder turns) {t i : Nat}
    (hi : (turns.takeWhile (·.done < t)).length ≤ i) (hlt : i < turns.length) : t ≤ doneAt turns i := by
  induction turns generalizing i with
  | nil => exact absurd hlt (Nat.not_lt_zero i)
  | cons turn turns ih =>
    by_cases hturn : turn.done < t
    · rw [List.takeWhile_cons, if_pos (decide_eq_true hturn), List.length_cons] at hi
      cases i with
      | zero => exact absurd hi (Nat.not_succ_le_zero _)
      | succ i => exact ih h.tail (Nat.le_of_succ_le_succ hi) (Nat.lt_of_succ_lt_succ hlt)
    · calc t ≤ doneAt (turn :: turns) 0 := Nat.le_of_not_lt hturn
        _ ≤ doneAt (turn :: turns) i := h.doneAt_le (Nat.zero_le i) hlt

/-! ## When turns start -/

/-- Where the window is full, a term starts when the one that stands a window before it has been taken in. -/
theorem start_scheduleFrom (hw : 0 < window) {durations : List Nat} {i : Nat} {turn : Turn} (hi : past.length ≤ i)
    (hturn : (past ++ scheduleFrom window past durations)[i]? = some turn) :
    turn.start = if i < window then 0 else doneAt (past ++ scheduleFrom window past durations) (i - window) := by
  induction durations generalizing past with
  | nil =>
    rw [scheduleFrom, List.append_nil, List.getElem?_eq_none hi] at hturn
    cases hturn
  | cons duration durations ih =>
    rw [scheduleFrom] at hturn ⊢
    rcases Nat.eq_or_lt_of_le hi with rfl | hlt
    · rw [List.getElem?_append_right (Nat.le_refl _), Nat.sub_self, List.getElem?_cons_zero] at hturn
      cases hturn
      rw [start_nextTurn]
      split
      · rfl
      · next hfull => rw [doneAt, doneAt, List.getElem?_append_left (by omega)]
    · rw [List.append_cons] at hturn ⊢
      exact ih (by simpa using hlt) hturn

theorem start_schedule (hw : 0 < window) {durations : List Nat} {i : Nat} {turn : Turn}
    (hturn : (schedule window durations)[i]? = some turn) :
    turn.start = if i < window then 0 else doneAt (schedule window durations) (i - window) := by
  have hstart : turn.start = if i < window then 0 else doneAt ([] ++ scheduleFrom window [] durations) (i - window) :=
    start_scheduleFrom hw (Nat.zero_le i) hturn
  exact hstart

theorem start_le_done_of_mem {durations : List Nat} {turn : Turn} (h : turn ∈ scheduleFrom window past durations) :
    turn.start ≤ turn.done := by
  induction durations generalizing past with
  | nil => cases h
  | cons duration durations ih =>
    rcases List.mem_cons.1 h with rfl | h
    · rw [done_nextTurn]
      omega
    · exact ih h

/-- **The terms that have been started are a window ahead at most** of those that are over before an instant. -/
theorem length_started_le (hw : 0 < window) {durations : List Nat} {k t : Nat}
    (hk : ∀ i, k ≤ i → i < (schedule window durations).length → t ≤ doneAt (schedule window durations) i) :
    ((schedule window durations).takeWhile (·.start < t)).length ≤ k + window := by
  by_contra hmore
  have hlt : k + window < ((schedule window durations).takeWhile (·.start < t)).length := Nat.lt_of_not_le hmore
  obtain ⟨late, hlate⟩ := List.takeWhile_prefix (l := schedule window durations) (·.start < t)
  obtain ⟨turn, hturn⟩ : ∃ turn, ((schedule window durations).takeWhile (·.start < t))[k + window]? = some turn :=
    ⟨_, List.getElem?_eq_getElem hlt⟩
  have hearly : turn.start < t := by simpa using List.mem_takeWhile_imp (List.mem_of_getElem? hturn)
  have hplace : (schedule window durations)[k + window]? = some turn := by
    rw [← hlate, List.getElem?_append_left hlt, hturn]
  have hin : k + window < (schedule window durations).length := (List.getElem?_eq_some_iff.1 hplace).1
  have hstart : turn.start = doneAt (schedule window durations) k := by
    rw [start_schedule hw hplace, if_neg (by omega), Nat.add_sub_cancel]
  have hover : t ≤ doneAt (schedule window durations) k := hk k (Nat.le_refl k) (by omega)
  omega

theorem length_started_le_length (turns : List Turn) (t : Nat) :
    (turns.takeWhile (·.start < t)).length ≤ turns.length :=
  (List.takeWhile_sublist _).length_le

/-- Terms that have been taken in have been started. -/
theorem length_taken_le_started {turns : List Turn} (h : ∀ turn ∈ turns, turn.start ≤ turn.done) (t : Nat) :
    (turns.takeWhile (·.done < t)).length ≤ (turns.takeWhile (·.start < t)).length := by
  induction turns with
  | nil => exact Nat.le_refl _
  | cons turn turns ih =>
    rw [List.takeWhile_cons, List.takeWhile_cons]
    split
    · next hdone =>
      have hstart : turn.start < t :=
        Nat.lt_of_le_of_lt (h turn List.mem_cons_self) (of_decide_eq_true hdone)
      rw [if_pos (decide_eq_true hstart)]
      exact Nat.succ_le_succ (ih fun turn hturn => h turn (List.mem_cons_of_mem _ hturn))
    · exact Nat.zero_le _

theorem Cancel.started_le_length (turns : List Turn) (cancel : Cancel) : cancel.started turns ≤ turns.length := by
  cases cancel with
  | never => exact Nat.le_refl _
  | before => exact Nat.zero_le _
  | atCall n => exact Nat.min_le_right _ _
  | atTime t => exact length_started_le_length turns t

/-- A term that is taken in before a cancellation is noticed has been started. -/
theorem Cancel.cutoff_le_started {durations : List Nat} {cancel : Cancel} {k : Nat}
    (hk : cancel.cutoff (schedule window durations) = some k) : k ≤ cancel.started (schedule window durations) := by
  cases cancel with
  | never => cases hk
  | before =>
    cases hk
    exact Nat.le_refl 0
  | atCall n =>
    rw [cutoff] at hk
    split at hk
    · cases hk
    obtain ⟨turn, hturn, rfl⟩ := Option.map_eq_some_iff.1 hk
    calc _ ≤ ((schedule window durations).take (termOfCall n + 1)).length := (List.takeWhile_sublist _).length_le
      _ = started (schedule window durations) (.atCall n) := List.length_take
  | atTime t =>
    simp only [cutoff] at hk
    split at hk
    · cases hk
      exact length_taken_le_started (fun turn hturn => start_le_done_of_mem hturn) t
    · cases hk

/-- **When a cancellation is noticed, the terms that have been started are a window ahead at most** of those that have
been taken in. -/
theorem Cancel.started_le_cutoff (hw : 0 < window) {durations : List Nat} {cancel : Cancel} {k : Nat}
    (hk : cancel.cutoff (schedule window durations) = some k) :
    cancel.started (schedule window durations) ≤ k + window := by
  have horder := inOrder_schedule window durations
  cases cancel with
  | never => cases hk
  | before =>
    cases hk
    exact Nat.zero_le _
  | atCall n =>
    rw [cutoff] at hk
    split at hk
    · cases hk
    obtain ⟨turn, hturn, rfl⟩ := Option.map_eq_some_iff.1 hk
    refine Nat.le_trans (Nat.min_le_left _ _) ?_
    by_contra hmore
    -- the term that stands a window before this one was taken in when this one started
    have hin : termOfCall n < (schedule window durations).length := (List.getElem?_eq_some_iff.1 hturn).1
    have hstart : turn.start = doneAt (schedule window durations) (termOfCall n - window) := by
      rw [start_schedule hw hturn, if_neg (by omega)]
    have hfirst : InOrder ((schedule window durations).take (termOfCall n + 1)) :=
      horder.sublist (List.take_sublist _ _)
    have hlate : turn.start + 1 ≤
        doneAt ((schedule window durations).take (termOfCall n + 1)) (termOfCall n - window) := by
      refine hfirst.le_doneAt ?_ (by rw [List.length_take]; omega)
      simp only [Nat.lt_succ_iff]
      omega
    rw [doneAt, List.getElem?_take_of_lt (by omega), ← doneAt, ← hstart] at hlate
    omega
  | atTime t =>
    simp only [cutoff] at hk
    split at hk
    · cases hk
      exact length_started_le hw fun i hi hlt => horder.le_doneAt hi hlt
    · cases hk

/-! ## Two windows -/

theorem doneAt_mono (h : List.Forall₂ Turn.NoLater early past) (i : Nat) : doneAt early i ≤ doneAt past i := by
  induction h generalizing i with
  | nil => exact Nat.le_refl _
  | cons hab _ ih =>
    cases i with
    | zero => exact hab.done
    | succ i => exact ih i

/-- The next turn comes no later with a wider window, after turns that came no later. -/
theorem nextTurn_noLater (hwindow : 0 < window) (hwide : window ≤ wide)
    (h : List.Forall₂ Turn.NoLater early past) (horder : InOrder past) (duration : Nat) :
    (nextTurn wide early duration).NoLater (nextTurn window past duration) := by
  have hlength : early.length = past.length := h.length_eq
  have hstart : (nextTurn wide early duration).start ≤ (nextTurn window past duration).start := by
    rw [start_nextTurn, start_nextTurn, hlength]
    split
    · exact Nat.zero_le _
    · next hfull =>
      rw [if_neg (by omega)]
      calc doneAt early (past.length - wide) ≤ doneAt past (past.length - wide) := doneAt_mono h _
        _ ≤ doneAt past (past.length - window) := horder.doneAt_le (by omega) (by omega)
  refine ⟨hstart, ?_⟩
  rw [done_nextTurn, done_nextTurn, hlength]
  have hprevious : doneAt early (past.length - 1) ≤ doneAt past (past.length - 1) := doneAt_mono h _
  omega

theorem scheduleFrom_noLater (hwindow : 0 < window) (hwide : window ≤ wide)
    (h : List.Forall₂ Turn.NoLater early past) (horder : InOrder past) (durations : List Nat) :
    List.Forall₂ Turn.NoLater (scheduleFrom wide early durations) (scheduleFrom window past durations) := by
  induction durations generalizing early past with
  | nil => exact .nil
  | cons duration durations ih =>
    have hturn := nextTurn_noLater hwindow hwide h horder duration
    exact .cons hturn (ih (List.rel_append h (.cons hturn .nil)) (horder.nextTurn window duration))

/-- **With a wider window no term starts later or is taken in later.** -/
theorem schedule_noLater (hwindow : 0 < window) (hwide : window ≤ wide) (durations : List Nat) :
    List.Forall₂ Turn.NoLater (schedule wide durations) (schedule window durations) :=
  scheduleFrom_noLater hwindow hwide .nil .nil durations

/-! ## What has been taken in -/

/-- The number of terms that have been taken in before an instant, which may never come. -/
def taken (turns : List Turn) (t : ℕ∞) : Nat :=
  (turns.takeWhile fun turn => turn.done < t).length

theorem taken_top (turns : List Turn) : taken turns ⊤ = turns.length := by
  rw [taken, List.takeWhile_eq_self_iff.2]
  exact fun turn _ => decide_eq_true (ENat.natCast_lt_top turn.done)

theorem taken_le_length (turns : List Turn) (t : ℕ∞) : taken turns t ≤ turns.length :=
  (List.takeWhile_sublist _).length_le

/-- **Of turns that come no later, a later instant finds no fewer taken in.** -/
theorem taken_le_taken (h : List.Forall₂ Turn.NoLater early past) {t t' : ℕ∞} (ht : t ≤ t') :
    taken past t ≤ taken early t' := by
  induction h with
  | nil => exact Nat.le_refl _
  | @cons a b early past hab _ ih =>
    unfold taken at ih ⊢
    rw [List.takeWhile_cons, List.takeWhile_cons]
    split
    · next hb =>
      have ha : (a.done : ℕ∞) < t' :=
        calc (a.done : ℕ∞) ≤ b.done := Nat.cast_le.2 hab.done
          _ < t := of_decide_eq_true hb
          _ ≤ t' := ht
      rw [if_pos (decide_eq_true ha)]
      exact Nat.succ_le_succ ih
    · exact Nat.zero_le _

end RecipeSearch.Search
