import Mathlib.Order.Bounds.Basic
import RecipeSearch.Proofs.Search.Result
import RecipeSearch.Proofs.Text.Distinct

/-!
# The look-ups that a search makes

Where look-ups take no time, the terms are looked up one after the other, however many may be on the way at once. A
search takes in as few batches as its end allows (`isLeast_collect`), and starts no term that it does not take in
(`started_run`). So **its look-ups are those of the first terms, and of no more terms than needed**
(`calls_withCancel`): it stops at the end of the terms, with the term that fills it, or with the term during which it is
cancelled, whichever comes first.
-/

namespace RecipeSearch.Search

/-- The look-ups of some terms, each under category, area, ingredient and name, in this order. -/
def lookupsOf (terms : List String) : List Call :=
  terms.flatMap fun term => [Facet.category, .area, .ingredient, .name].map fun facet => .lookup facet term

/-- A search is cancelled during a look-up of the `k`-th term, counting from one. -/
def Cancel.FallsIn (cancel : Cancel) (terms : List String) (k : Nat) : Prop :=
  ∃ n, cancel = .atCall n ∧ (lookupsOf (terms.take (k - 1))).length < n ∧ n ≤ (lookupsOf (terms.take k)).length

/-- A search looks up no more than `k` terms. -/
inductive StopsAfter (answers : Answers) (limit : Nat) (terms : List String) (cancel : Cancel) (k : Nat) : Prop
  /-- There are no more. -/
  | exhausted (all : k = terms.length)
  /-- What they bring fills the search. -/
  | full (fill : (answers.merged limit (terms.take k)).length = limit)
  /-- The search is cancelled during a look-up of the last of them. -/
  | cancelled (falls : cancel.FallsIn terms k)

@[simp] theorem length_lookupsOf (terms : List String) : (lookupsOf terms).length = 4 * terms.length := by
  induction terms with
  | nil => rfl
  | cons term terms ih =>
    have hcons : lookupsOf (term :: terms) =
        [.lookup .category term, .lookup .area term, .lookup .ingredient term, .lookup .name term] ++
          lookupsOf terms := rfl
    rw [hcons, List.length_append, ih, List.length_cons]
    simp
    omega

theorem mem_lookupsOf {terms : List String} {facet : Facet} {term : String} :
    .lookup facet term ∈ lookupsOf terms ↔ term ∈ terms := by
  cases facet <;> simp [lookupsOf]

/-- No look-up of different terms is made twice. -/
theorem nodup_lookupsOf {terms : List String} (h : terms.Nodup) : (lookupsOf terms).Nodup := by
  refine List.nodup_flatMap.2 ⟨fun term _ => by simp, ?_⟩
  refine h.imp fun {a b} hab => ?_
  intro call ha hb
  obtain ⟨facet, -, rfl⟩ := List.mem_map.1 ha
  obtain ⟨facet', -, heq⟩ := List.mem_map.1 hb
  cases heq
  exact hab rfl

/-! ## How many batches a search takes in -/

section Collect

variable {m : Merger}

/-- The least element of a set that does not have zero is one more than that of the set below it. -/
theorem isLeast_succ {S : Set Nat} {i : Nat} (hzero : 0 ∉ S) (h : IsLeast {i | i + 1 ∈ S} i) : IsLeast S (i + 1) := by
  refine ⟨h.1, fun k hk => ?_⟩
  cases k with
  | zero => exact absurd hk hzero
  | succ k =>
    have hle : i ≤ k := h.2 hk
    omega

/-- A search can end after `i` batches more. -/
def CanEnd (cutoff : Option Nat) (taken : Nat) (m : Merger) (batches : List (List Recipe)) (i : Nat) : Prop :=
  i = batches.length ∨ cutoff = some (taken + i) ∨ (m.extend (batches.take i).flatten).isFull = true

/-- **A search takes in as few batches as it can end after.** -/
theorem isLeast_collect (cutoff : Option Nat) (taken : Nat) (batches : List (List Recipe)) (hm : m.isFull = false) :
    ∃ i, (collect cutoff taken m batches).2.taken cutoff (taken + batches.length) = taken + i ∧
      IsLeast {i | CanEnd cutoff taken m batches i} i := by
  by_cases hc : cutoff = some taken
  · rw [collect_of_cutoff hc]
    exact ⟨0, by simp [Ending.taken, hc], .inr (.inl hc), fun _ _ => Nat.zero_le _⟩
  induction batches generalizing taken m with
  | nil =>
    rw [collect_nil hc]
    exact ⟨0, rfl, .inl rfl, fun _ _ => Nat.zero_le _⟩
  | cons rs batches ih =>
    -- not even the first batch can be left out
    have hzero : ¬ CanEnd cutoff taken m (rs :: batches) 0 := by
      rintro (hlength | hcut | hfull)
      · simp at hlength
      · exact hc hcut
      · have hopen : (m.extend ((rs :: batches).take 0).flatten).isFull = false := hm
        rw [hopen] at hfull
        cases hfull
    cases hfull : (m.extend rs).isFull with
    | true =>
      rw [collect_cons_of_full hc hfull]
      refine ⟨1, rfl, isLeast_succ hzero ⟨.inr (.inr ?_), fun _ _ => Nat.zero_le _⟩⟩
      simpa using hfull
    | false =>
      have hnext (i : Nat) :
          CanEnd cutoff taken m (rs :: batches) (i + 1) ↔ CanEnd cutoff (taken + 1) (m.extend rs) batches i := by
        have hplace : taken + (i + 1) = taken + 1 + i := by omega
        simp [CanEnd, hplace, Merger.extend_append]
      have hleast : ∃ i, (collect cutoff (taken + 1) (m.extend rs) batches).2.taken cutoff
          (taken + 1 + batches.length) = taken + 1 + i ∧
            IsLeast {i | CanEnd cutoff (taken + 1) (m.extend rs) batches i} i := by
        by_cases hc' : cutoff = some (taken + 1)
        · rw [collect_of_cutoff hc']
          exact ⟨0, by simp [Ending.taken, hc'], .inr (.inl hc'), fun _ _ => Nat.zero_le _⟩
        · exact ih _ hfull hc'
      obtain ⟨i, hi, hmin⟩ := hleast
      refine ⟨i + 1, ?_, isLeast_succ hzero ?_⟩
      · rw [collect_cons_of_room hc hfull, List.length_cons]
        have hlength : taken + (batches.length + 1) = taken + 1 + batches.length := by omega
        rw [hlength, hi]
        omega
      · simpa only [Set.mem_ofPred_eq, hnext] using hmin

end Collect

/-! ## Look-ups that take no time -/

section AtOnce

variable {answers : Answers} {limits : Limits} {terms : List String} {cancel : Cancel} {n k : Nat}

/-- The catalogue that gives these answers at once. -/
def Answers.atOnce (answers : Answers) : TermSource :=
  answers.after fun _ _ => 0

/-- A term in any place is taken in at the start. -/
theorem done_replicate (k i : Nat) : (((List.replicate k (⟨0, 0⟩ : Turn))[i]?).map Turn.done).getD 0 = 0 := by
  rw [List.getElem?_replicate]
  split <;> rfl

theorem scheduleFrom_atOnce (window k n : Nat) :
    scheduleFrom window (List.replicate k ⟨0, 0⟩) (List.replicate n 0) = List.replicate n ⟨0, 0⟩ := by
  induction n generalizing k with
  | zero => rfl
  | succ n ih =>
    have hturn : nextTurn window (List.replicate k ⟨0, 0⟩) 0 = ⟨0, 0⟩ := by
      simp [nextTurn, List.getLast?_eq_getElem?, done_replicate]
    rw [List.replicate_succ, scheduleFrom, hturn, ← List.replicate_succ', ih, List.replicate_succ]

/-- All terms are looked up at the start. -/
theorem schedule_atOnce (answers : Answers) (window : Nat) (terms : List String) :
    schedule window (terms.map (duration answers.atOnce)) = List.replicate terms.length ⟨0, 0⟩ := by
  have hduration : terms.map (duration answers.atOnce) = List.replicate terms.length 0 :=
    List.map_eq_replicate_iff.2 fun term _ => rfl
  rw [hduration]
  exact scheduleFrom_atOnce window 0 terms.length

theorem cutoff_atCall (n len : Nat) :
    (Cancel.atCall n).cutoff (List.replicate len ⟨0, 0⟩) = some k ↔ 4 * (k - 1) < n ∧ n ≤ 4 * k ∧ k ≤ len := by
  have hplace : Cancel.termOfCall n = (n - 1) / 4 := rfl
  rw [Cancel.cutoff]
  split
  · next hn =>
    constructor
    · intro h
      cases h
    · omega
  · next hn =>
    rw [Option.map_eq_some_iff, List.getElem?_replicate]
    split
    · next hlt =>
      have hmin : min (Cancel.termOfCall n + 1) len = Cancel.termOfCall n + 1 := Nat.min_eq_left hlt
      simp [hmin]
      omega
    · next hge =>
      constructor
      · rintro ⟨turn, hturn, -⟩
        cases hturn
      · omega

theorem fallsIn_atCall {n : Nat} :
    (Cancel.atCall n).FallsIn terms k ↔ 4 * (k - 1) < n ∧ n ≤ 4 * k ∧ k ≤ terms.length := by
  have hiff : (Cancel.atCall n).FallsIn terms k ↔
      4 * min (k - 1) terms.length < n ∧ n ≤ 4 * min k terms.length := by
    constructor
    · rintro ⟨n', heq, hlow, hhigh⟩
      cases heq
      simpa using And.intro hlow hhigh
    · intro h
      exact ⟨n, rfl, by simpa using h.1, by simpa using h.2⟩
  rw [hiff]
  omega

/-- A cancellation that falls in the look-ups of a term is noticed after this term. -/
theorem cutoffOf_atOnce (hbefore : cancel ≠ .before) (hcancel : ∀ t, cancel ≠ .atTime t) :
    cutoffOf terms answers.atOnce limits cancel = some k ↔ cancel.FallsIn terms k := by
  rw [cutoffOf, schedule_atOnce]
  cases cancel with
  | never =>
    constructor
    · intro h
      cases h
    · rintro ⟨n, heq, -⟩
      cases heq
  | before => exact absurd rfl hbefore
  | atCall n => rw [cutoff_atCall, fallsIn_atCall]
  | atTime t => exact absurd rfl (hcancel t)

/-- **A search starts no term that it does not take in.** -/
theorem started_run (hzero : limits.maxResults ≠ 0) (hcancel : ∀ t, cancel ≠ .atTime t) {m : Merger} {ending : Ending}
    (hc : collect (cutoffOf terms answers.atOnce limits cancel) 0 (.empty limits.maxResults)
      (terms.map (batch answers.atOnce)) = (m, ending)) :
    (run terms answers.atOnce limits cancel).started =
      ending.taken (cutoffOf terms answers.atOnce limits cancel) terms.length := by
  rw [started_run_eq hzero hc, schedule_atOnce]
  cases ending with
  | full n => simp [Ending.started, Ending.taken, doneAt, done_replicate]
  | exhausted => simp [Ending.started, Ending.taken]
  | cancelled =>
    obtain ⟨k, -, hk, -⟩ := (collect_cancelled_iff (Merger.isFull_empty_of_ne hzero)).1 hc
    rw [Nat.zero_add] at hk
    rw [Ending.started, Ending.taken, hk, Option.getD_some]
    rw [cutoffOf, schedule_atOnce] at hk
    cases cancel with
    | never => cases hk
    | before =>
      cases hk
      rfl
    | atCall n =>
      have := (cutoff_atCall n terms.length).1 hk
      have hplace : Cancel.termOfCall n = (n - 1) / 4 := rfl
      rw [Cancel.started, List.length_replicate]
      omega
    | atTime t => exact absurd rfl (hcancel t)

/-- What some terms bring fills a search when it is as much as the limit allows. -/
theorem isFull_extend_inOrder_iff {limit : Nat} :
    ((Merger.empty limit).extend (answers.inOrder terms)).isFull = true ↔
      (answers.merged limit terms).length = limit := by
  have hle := length_merged_le answers limit terms
  rw [← Bool.not_eq_false, isFull_extend_inOrder]
  omega

/-- **The number of terms that are looked up is the least after which a search can stop.** -/
theorem isLeast_started (hzero : limits.maxResults ≠ 0) (hbefore : cancel ≠ .before)
    (hcancel : ∀ t, cancel ≠ .atTime t) :
    IsLeast {k | StopsAfter answers limits.maxResults terms cancel k}
      (run terms answers.atOnce limits cancel).started := by
  have hroom : (Merger.empty limits.maxResults).isFull = false := Merger.isFull_empty_of_ne hzero
  obtain ⟨i, hi, hmin⟩ := isLeast_collect (cutoffOf terms answers.atOnce limits cancel) 0
    (terms.map (batch answers.atOnce)) hroom
  have hstops (k : Nat) : CanEnd (cutoffOf terms answers.atOnce limits cancel) 0 (.empty limits.maxResults)
      (terms.map (batch answers.atOnce)) k ↔ StopsAfter answers limits.maxResults terms cancel k := by
    rw [CanEnd, List.length_map, Nat.zero_add, cutoffOf_atOnce hbefore hcancel, ← List.map_take, Answers.atOnce,
      flatten_map_batch, isFull_extend_inOrder_iff]
    constructor
    · rintro (h | h | h)
      · exact .exhausted h
      · exact .cancelled h
      · exact .full h
    · rintro (h | h | h)
      · exact .inl h
      · exact .inr (.inr h)
      · exact .inr (.inl h)
  rw [List.length_map, Nat.zero_add, Nat.zero_add] at hi
  rw [started_run hzero hcancel rfl, hi]
  simpa only [hstops] using hmin

/-- Where look-ups take no time, it does not matter how many terms may be on the way at once. -/
theorem run_atOnce_concurrency (limit concurrency concurrency' : Nat) :
    run terms answers.atOnce ⟨limit, concurrency⟩ cancel = run terms answers.atOnce ⟨limit, concurrency'⟩ cancel := by
  simp only [run, schedule_atOnce]

theorem started_run_zero (source : TermSource) (hzero : limits.maxResults = 0) :
    (run terms source limits cancel).started = 0 := by
  rw [run, if_pos hzero]

/-- A search that is cancelled before it starts looks up nothing. -/
theorem started_run_before (answers : Answers) (limits : Limits) (terms : List String) :
    (run terms answers.atOnce limits .before).started = 0 := by
  by_cases hzero : limits.maxResults = 0
  · exact started_run_zero _ hzero
  · have hcancel : ∀ t, Cancel.before ≠ .atTime t := nofun
    have hcutoff : cutoffOf terms answers.atOnce limits .before = some 0 := rfl
    rw [started_run hzero hcancel (collect_of_cutoff hcutoff), hcutoff]
    rfl

/-- The look-ups are those that a search makes in some order of events, in which every term that is started is taken
in. -/
theorem reachable_started (hcancel : ∀ t, cancel ≠ .atTime t) :
    ∃ s, Loop.Reachable answers.atOnce limits terms s ∧ s.Ends (run terms answers.atOnce limits cancel).result ∧
      s.flights = [] ∧ s.calls = lookupsOf s.taken ∧
      s.taken = terms.take (run terms answers.atOnce limits cancel).started := by
  by_cases hzero : limits.maxResults = 0
  · rw [result_run_zero _ _ _ hzero, started_run_zero _ hzero]
    exact ⟨_, .refl, .full (Merger.isFull_empty_iff.2 hzero), rfl, rfl, rfl⟩
  · have hw : 0 < max 1 limits.termConcurrency := by omega
    have hroom : (Merger.empty limits.maxResults).isFull = false := Merger.isFull_empty_of_ne hzero
    obtain ⟨⟨m, ending⟩, hc⟩ : ∃ r, collect (cutoffOf terms answers.atOnce limits cancel) 0 (.empty limits.maxResults)
        (terms.map (batch answers.atOnce)) = r := ⟨_, rfl⟩
    have hall := (started_bounds hzero hc).2.1
    rw [started_run hzero hcancel hc] at hall ⊢
    obtain ⟨s, hs, hends, hflights, htaken⟩ : ∃ s, Loop.Reachable answers.atOnce limits terms s ∧
        s.Ends (ending.result m) ∧ s.flights.length = 0 ∧
        s.taken.length = ending.taken (cutoffOf terms answers.atOnce limits cancel) (0 + terms.length) :=
      Loop.reaches_collect hw hc rfl hroom (Nat.zero_le _) (fun _ _ => hw) (by rw [Nat.zero_add]; exact hall)
    rw [List.length_eq_zero_iff] at hflights
    rw [Nat.zero_add] at htaken
    refine ⟨s, hs, ?_, hflights, ?_, ?_⟩
    · rw [result_run _ _ _ hzero hc]
      exact hends
    · rw [hs.sound.calls, hflights, List.map_nil, List.append_nil]
      rfl
    · rw [← htaken, hs.sound.take_terms]

end AtOnce

/-! ## The look-ups of a query -/

theorem nodup_searchTerms (query : String) : (Query.searchTerms query).Nodup :=
  (Text.nodup_distinctOn _ _).map fun _ _ => String.ofList_injective

/-- **A search makes the look-ups of the first terms, and of no more terms than needed**: of none if it may bring
nothing or is cancelled before it starts, else of the least number of terms after which it can stop. None is made
twice, a term is looked up under all facets or under none, and it does not matter how many terms may be looked up at
once. They are the look-ups that a search makes in some order of events, in which it takes in every term it starts. -/
theorem calls_withCancel (query : String) (answers : Answers) (limits : Limits) {cancel : Cancel}
    (hcancel : ∀ t, cancel ≠ .atTime t) :
    (∃ j, (withCancel query answers.atOnce limits cancel).calls = lookupsOf ((Query.searchTerms query).take j) ∧
        (limits.maxResults = 0 ∨ cancel = .before → j = 0) ∧
        (limits.maxResults ≠ 0 → cancel ≠ .before →
          IsLeast {k | StopsAfter answers limits.maxResults (Query.searchTerms query) cancel k} j)) ∧
      (withCancel query answers.atOnce limits cancel).calls.Nodup ∧
      (∀ facet facet' term, .lookup facet term ∈ (withCancel query answers.atOnce limits cancel).calls →
        .lookup facet' term ∈ (withCancel query answers.atOnce limits cancel).calls) ∧
      (∀ concurrency, (withCancel query answers.atOnce ⟨limits.maxResults, concurrency⟩ cancel).calls =
        (withCancel query answers.atOnce limits cancel).calls) ∧
      ∃ s, Loop.Reachable answers.atOnce limits (Query.searchTerms query) s ∧
        s.Ends (withCancel query answers.atOnce limits cancel).value.result ∧ s.flights = [] ∧
        s.calls = (withCancel query answers.atOnce limits cancel).calls ∧
        (withCancel query answers.atOnce limits cancel).calls = lookupsOf s.taken := by
  have hcalls : (withCancel query answers.atOnce limits cancel).calls = lookupsOf ((Query.searchTerms query).take
      (run (Query.searchTerms query) answers.atOnce limits cancel).started) := rfl
  refine ⟨⟨_, hcalls, ?_, ?_⟩, ?_, ?_, ?_, ?_⟩
  · rintro (hzero | rfl)
    · exact started_run_zero _ hzero
    · exact started_run_before _ _ _
  · intro hzero hbefore
    exact isLeast_started hzero hbefore hcancel
  · rw [hcalls]
    exact nodup_lookupsOf ((nodup_searchTerms query).sublist (List.take_sublist _ _))
  · intro facet facet' term hterm
    rw [hcalls, mem_lookupsOf] at hterm ⊢
    exact hterm
  · intro concurrency
    have hrun : run (Query.searchTerms query) answers.atOnce ⟨limits.maxResults, concurrency⟩ cancel =
        run (Query.searchTerms query) answers.atOnce limits cancel := run_atOnce_concurrency _ _ _
    rw [withCancel, hrun]
    rfl
  · obtain ⟨s, hs, hends, hflights, hmade, htaken⟩ := reachable_started hcancel
    exact ⟨s, hs, hends, hflights, by rw [hcalls, hmade, htaken], by rw [hcalls, htaken]⟩

/-- Every term brings a recipe of its own under its name, and fails under its area. The second term is looked up when
the search is cancelled, and the third one would fill it. -/
theorem calls_withCancel_cut_short :
    let answers : Answers := fun facet term =>
      match facet with
      | .area => .error (.status term 503)
      | .name => .ok [⟨term, "", "", "", "", "", [], []⟩]
      | _ => .ok []
    (∀ t, Cancel.atCall 6 ≠ .atTime t) ∧
      (withCancel "rice AND beef OR eggs AND leek" answers.atOnce ⟨3, 4⟩ (.atCall 6)).calls =
        lookupsOf ["rice", "beef"] ∧
      (withCancel "rice AND beef OR eggs AND leek" answers.atOnce ⟨3, 4⟩ (.atCall 6)).calls.Nodup :=
  have hcancel : ∀ t, Cancel.atCall 6 ≠ .atTime t := nofun
  ⟨hcancel, by decide +kernel, (calls_withCancel _ _ _ hcancel).2.1⟩

end RecipeSearch.Search
