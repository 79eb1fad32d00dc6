import RecipeSearch.Proofs.Search.Merging
import RecipeSearch.Search.Basic

/-!
# How a search ends

A search takes in the batches of its terms until it is full, at the end of its terms, or cancelled. If it ends as
cancelled, the cancellation was noticed after some number of terms whose batches did not fill it
(`collect_cancelled_iff`); if it ends in any other way, it has come to all that the terms bring, also where it was full
before the last term (`collect_of_ne_cancelled`). Hence **the result never hides that something is missing**
(`settled_run`).
-/

namespace RecipeSearch.Search

/-! ## Taking in batches -/

section Collect

variable {cutoff : Option Nat} {taken : Nat} {m m' : Merger} {rs : List Recipe} {batches : List (List Recipe)}

theorem collect_of_cutoff (hc : cutoff = some taken) : collect cutoff taken m batches = (m, .cancelled) := by
  cases batches <;> simp [collect, hc]

theorem collect_nil (hc : cutoff ≠ some taken) : collect cutoff taken m [] = (m, .exhausted) := by
  rw [collect, if_neg hc]

theorem collect_cons_of_full (hc : cutoff ≠ some taken) (hfull : (m.extend rs).isFull = true) :
    collect cutoff taken m (rs :: batches) = (m.extend rs, .full (taken + 1)) := by
  simp [collect, hc, hfull]

theorem collect_cons_of_room (hc : cutoff ≠ some taken) (hroom : (m.extend rs).isFull = false) :
    collect cutoff taken m (rs :: batches) = collect cutoff (taken + 1) (m.extend rs) batches := by
  simp [collect, hc, hroom]

/-- A search that ends as full has taken in some of its batches. -/
theorem collect_full {n : Nat} (h : (collect cutoff taken m batches).2 = .full n) :
    taken < n ∧ n ≤ taken + batches.length := by
  induction batches generalizing taken m with
  | nil =>
    rw [collect] at h
    split at h <;> cases h
  | cons rs batches ih =>
    by_cases hc : cutoff = some taken
    · rw [collect_of_cutoff hc] at h
      cases h
    rw [List.length_cons]
    cases hfull : (m.extend rs).isFull with
    | true =>
      rw [collect_cons_of_full hc hfull] at h
      cases h
      omega
    | false =>
      rw [collect_cons_of_room hc hfull] at h
      have hn := ih h
      omega

/-- A cancellation that is not noticed before a batch is noticed some batches after it. -/
theorem exists_cutoff_cons (hc : cutoff ≠ some taken) :
    (∃ k ≤ (rs :: batches).length, cutoff = some (taken + k) ∧
        m.extend ((rs :: batches).take k).flatten = m' ∧ m'.isFull = false) ↔
      ∃ k ≤ batches.length, cutoff = some (taken + 1 + k) ∧
        (m.extend rs).extend (batches.take k).flatten = m' ∧ m'.isFull = false := by
  constructor
  · rintro ⟨k, hk, hcut, hm', hopen⟩
    cases k with
    | zero => exact absurd hcut hc
    | succ k =>
      rw [List.take_succ_cons, List.flatten_cons, Merger.extend_append] at hm'
      exact ⟨k, by simpa using hk, by rw [hcut]; congr 1; omega, hm', hopen⟩
  · rintro ⟨k, hk, hcut, hm', hopen⟩
    refine ⟨k + 1, by simpa using hk, by rw [hcut]; congr 1; omega, ?_, hopen⟩
    rw [List.take_succ_cons, List.flatten_cons, Merger.extend_append, hm']

/-- A search that ends as cancelled has noticed it after some batches that did not fill the merger. -/
theorem collect_cancelled_iff (hm : m.isFull = false) :
    collect cutoff taken m batches = (m', .cancelled) ↔
      ∃ k ≤ batches.length, cutoff = some (taken + k) ∧ m.extend (batches.take k).flatten = m' ∧ m'.isFull = false := by
  induction batches generalizing taken m with
  | nil =>
    constructor
    · intro h
      by_cases hc : cutoff = some taken
      · rw [collect_of_cutoff hc] at h
        cases h
        exact ⟨0, Nat.le_refl 0, hc, rfl, hm⟩
      · rw [collect_nil hc] at h
        cases h
    · rintro ⟨k, hk, hc, rfl, -⟩
      obtain rfl : k = 0 := by simpa using hk
      exact collect_of_cutoff hc
  | cons rs batches ih =>
    by_cases hc : cutoff = some taken
    · rw [collect_of_cutoff hc]
      constructor
      · intro h
        cases h
        exact ⟨0, Nat.zero_le _, hc, rfl, hm⟩
      · rintro ⟨k, -, hk, rfl, -⟩
        obtain rfl : k = 0 := by
          rw [hc, Option.some.injEq] at hk
          omega
        rfl
    rw [exists_cutoff_cons hc]
    cases hfull : (m.extend rs).isFull with
    | false =>
      rw [collect_cons_of_room hc hfull]
      exact ih hfull
    | true =>
      rw [collect_cons_of_full hc hfull]
      constructor
      · intro h
        cases h
      · rintro ⟨k, -, -, rfl, hopen⟩
        rw [Merger.extend_of_isFull hfull, hfull] at hopen
        cases hopen

/-- A search that ends in any other way has come to all that its batches bring. -/
theorem collect_of_ne_cancelled (h : (collect cutoff taken m batches).2 ≠ .cancelled) :
    (collect cutoff taken m batches).1 = m.extend batches.flatten := by
  by_cases hc : cutoff = some taken
  · rw [collect_of_cutoff hc] at h
    exact absurd rfl h
  induction batches generalizing taken m with
  | nil =>
    rw [collect_nil hc]
    rfl
  | cons rs batches ih =>
    rw [List.flatten_cons, Merger.extend_append]
    cases hfull : (m.extend rs).isFull with
    | true => rw [collect_cons_of_full hc hfull, Merger.extend_of_isFull hfull]
    | false =>
      rw [collect_cons_of_room hc hfull] at h ⊢
      refine ih h fun hc' => ?_
      rw [collect_of_cutoff hc'] at h
      exact h rfl

end Collect

/-! ## The result of a search -/

/-- The result of a search that ended in this way. -/
def Ending.result (m : Merger) : Ending → Except SearchError Outcome
  | full _ => .ok (.complete m.recipes)
  | exhausted => .ok (.complete m.recipes)
  | cancelled => if m.recipes.isEmpty then .error .cancelled else .ok (.cancelled m.recipes)

/-- The number of terms that a search for `total` terms has taken in when it ends like this. -/
def Ending.taken (cutoff : Option Nat) (total : Nat) : Ending → Nat
  | full n => n
  | exhausted => total
  | cancelled => cutoff.getD 0

/-- The number of terms that have been taken in when the cancellation of a search is noticed. -/
def cutoffOf (terms : List String) (source : TermSource) (limits : Limits) (cancel : Cancel) : Option Nat :=
  cancel.cutoff (schedule (max 1 limits.termConcurrency) (terms.map (duration source)))

theorem result_run_zero (terms : List String) (source : TermSource) {limits : Limits} (cancel : Cancel)
    (h : limits.maxResults = 0) : (run terms source limits cancel).result = .ok (.complete []) := by
  rw [run, if_pos h]

theorem result_run (terms : List String) (source : TermSource) {limits : Limits} (cancel : Cancel)
    (h : limits.maxResults ≠ 0) {m : Merger} {ending : Ending}
    (hc : collect (cutoffOf terms source limits cancel) 0 (.empty limits.maxResults) (terms.map (batch source)) =
      (m, ending)) : (run terms source limits cancel).result = ending.result m := by
  rw [cutoffOf] at hc
  simp only [run, if_neg h, hc]
  cases ending <;> rfl

/-- What a search may come to when its cancellation is noticed after `k` terms, for a `k` of which `noticed` holds: all
that its terms bring, or what the first `k` terms bring, marked as cancelled and neither nothing nor as much as the
limit allows, or an error when these bring nothing. -/
def Settled (answers : Answers) (limit : Nat) (terms : List String) (noticed : Nat → Prop) :
    Except SearchError Outcome → Prop
  | .ok (.complete rs) => rs = answers.merged limit terms
  | .ok (.cancelled rs) => ∃ k, noticed k ∧ rs = answers.merged limit (terms.take k) ∧
      rs <+: answers.merged limit terms ∧ 1 ≤ rs.length ∧ rs.length < limit
  | .error e => e = .cancelled ∧ 0 < limit ∧ ∃ k, noticed k ∧ answers.merged limit (terms.take k) = []

/-- A search that is cancelled while its merger is not full has settled. -/
theorem settled_cancelled {answers : Answers} {limit : Nat} {terms : List String} {noticed : Nat → Prop} {k : Nat}
    {m : Merger} (hk : noticed k) (hm : (Merger.empty limit).extend (answers.inOrder (terms.take k)) = m)
    (hfull : m.isFull = false) : Settled answers limit terms noticed (Ending.cancelled.result m) := by
  have hrecipes : m.recipes = answers.merged limit (terms.take k) := by
    rw [← hm, recipes_extend_inOrder]
  have hroom : m.recipes.length < limit := by
    rw [hrecipes]
    exact isFull_extend_inOrder.1 (by rw [hm, hfull])
  rw [Ending.result]
  split
  · next hempty =>
    refine ⟨rfl, by omega, k, hk, ?_⟩
    rw [← hrecipes]
    exact List.isEmpty_iff.1 hempty
  · next hsome =>
    refine ⟨k, hk, hrecipes, ?_, ?_, hroom⟩
    · rw [hrecipes]
      conv => rhs; rw [← List.take_append_drop k terms]
      exact merged_prefix answers limit _ _
    · exact List.length_pos_iff.2 (by simpa using hsome)

theorem flatten_map_batch (answers : Answers) (delay : Facet → String → Nat) (terms : List String) :
    (terms.map (batch (answers.after delay))).flatten = answers.inOrder terms :=
  rfl

/-- **A search settles**, whatever its limits are and whenever it is cancelled. -/
theorem settled_run (answers : Answers) (delay : Facet → String → Nat) (limits : Limits) (cancel : Cancel)
    (terms : List String) :
    Settled answers limits.maxResults terms (cutoffOf terms (answers.after delay) limits cancel = some ·)
      (run terms (answers.after delay) limits cancel).result := by
  by_cases hzero : limits.maxResults = 0
  · rw [result_run_zero _ _ _ hzero, hzero]
    rfl
  obtain ⟨⟨m, ending⟩, hc⟩ : ∃ r, collect (cutoffOf terms (answers.after delay) limits cancel) 0
      (.empty limits.maxResults) (terms.map (batch (answers.after delay))) = r := ⟨_, rfl⟩
  rw [result_run _ _ _ hzero hc]
  have hroom : (Merger.empty limits.maxResults).isFull = false := Merger.isFull_empty_of_ne hzero
  have hall (h : ending ≠ .cancelled) : m.recipes = answers.merged limits.maxResults terms := by
    have := collect_of_ne_cancelled (by rw [hc]; exact h)
    rw [hc, flatten_map_batch] at this
    rw [show m = _ from this, recipes_extend_inOrder]
  cases ending with
  | full n => exact hall nofun
  | exhausted => exact hall nofun
  | cancelled =>
    obtain ⟨k, -, hk, hm, hfull⟩ := (collect_cancelled_iff hroom).1 hc
    rw [Nat.zero_add] at hk
    rw [← List.map_take, flatten_map_batch] at hm
    exact settled_cancelled hk hm hfull

/-! ## When a search is complete -/

@[simp] theorem length_scheduleFrom (window : Nat) (past : List Turn) (durations : List Nat) :
    (scheduleFrom window past durations).length = durations.length := by
  induction durations generalizing past with
  | nil => rfl
  | cons duration durations ih => simp [scheduleFrom, ih]

/-- A cancellation is noticed at the end of the terms at the latest. -/
theorem Cancel.cutoff_le {turns : List Turn} {cancel : Cancel} {k : Nat} (h : cancel.cutoff turns = some k) :
    k ≤ turns.length := by
  cases cancel with
  | never => cases h
  | before =>
    cases h
    exact Nat.zero_le _
  | atCall n =>
    rw [cutoff] at h
    split at h
    · cases h
    · obtain ⟨turn, -, rfl⟩ := Option.map_eq_some_iff.1 h
      calc _ ≤ (turns.take (termOfCall n + 1)).length := (List.takeWhile_sublist _).length_le
        _ ≤ turns.length := List.length_take_le' _ _
  | atTime t =>
    simp only [cutoff] at h
    split at h
    · next hlt =>
      cases h
      exact Nat.le_of_lt hlt
    · cases h

theorem cutoffOf_le {terms : List String} {source : TermSource} {limits : Limits} {cancel : Cancel} {k : Nat}
    (h : cutoffOf terms source limits cancel = some k) : k ≤ terms.length := by
  simpa [schedule] using Cancel.cutoff_le h

theorem Ending.result_complete_iff {m : Merger} {ending : Ending} :
    (∃ rs, ending.result m = .ok (.complete rs)) ↔ ending ≠ .cancelled := by
  cases ending with
  | full n => simp [result]
  | exhausted => simp [result]
  | cancelled =>
    rw [result]
    split <;> simp

/-- **A search is complete exactly when the terms before its cancellation fill it**, or when none is noticed. -/
theorem result_run_complete_iff (answers : Answers) (delay : Facet → String → Nat) (limits : Limits) (cancel : Cancel)
    (terms : List String) :
    (∃ rs, (run terms (answers.after delay) limits cancel).result = .ok (.complete rs)) ↔
      ∀ k, cutoffOf terms (answers.after delay) limits cancel = some k →
        (answers.merged limits.maxResults (terms.take k)).length = limits.maxResults := by
  by_cases hzero : limits.maxResults = 0
  · rw [result_run_zero _ _ _ hzero, hzero]
    simp [Answers.merged]
  have hroom : (Merger.empty limits.maxResults).isFull = false := Merger.isFull_empty_of_ne hzero
  rw [result_run _ _ _ hzero rfl, Ending.result_complete_iff]
  constructor
  · intro h k hk
    rcases Nat.lt_or_eq_of_le (length_merged_le answers limits.maxResults (terms.take k)) with hlt | heq
    · refine absurd (congrArg Prod.snd ((collect_cancelled_iff hroom).2 ⟨k, ?_, ?_, rfl, ?_⟩)) h
      · simpa using cutoffOf_le hk
      · rw [hk, Nat.zero_add]
      · rw [← List.map_take, flatten_map_batch]
        exact isFull_extend_inOrder.2 hlt
    · exact heq
  · intro h hcancelled
    obtain ⟨k, -, hk, hm, hopen⟩ := (collect_cancelled_iff hroom).1 (Prod.ext rfl hcancelled)
    rw [← List.map_take, flatten_map_batch] at hm
    rw [← hm, isFull_extend_inOrder] at hopen
    rw [Nat.zero_add] at hk
    exact absurd (h k hk) (Nat.ne_of_lt hopen)

end RecipeSearch.Search
