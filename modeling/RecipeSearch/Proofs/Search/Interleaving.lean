import Mathlib.Logic.Relation
import RecipeSearch.Proofs.Search.Ending
import RecipeSearch.Proofs.Search.Turns

/-!
# A search in any order of events

The look-ups of a search end whenever they do, terms start whenever the window has room, and a cancellation comes and is
noticed at any moment. `Loop.Step` is one such event; nothing is said about when it happens, only that terms are started
and taken in in their order and that no more of them than the window allows are on the way.

Every state that a search can get to has taken in the batches of the first terms and nothing else (`Loop.Sound`), so
that a search settles in whatever order its events come (`Loop.Ends.settled`). The events also record the look-ups that
are made, which are those of the terms that have been started. The search of `run`, which knows the delays, is one of
these, and **the look-ups that its events record are those of as many terms as `run` counts** (`reachable_run`).
-/

namespace RecipeSearch.Search

open Relation (ReflTransGen)

/-- A term that has been started, with the facets under which it has not been answered yet. -/
structure Flight where
  term : String
  awaited : List Facet

/-- A search on its way: the terms that have not been started, those that have been started and not taken in, and those
that have been taken in, each in order, and the look-ups that have been made. -/
structure Loop where
  waiting : List String
  flights : List Flight
  taken : List String
  merger : Merger
  cancelled : Bool
  calls : List Call

namespace Loop

/-- A search that has not started anything. -/
def initial (limit : Nat) (terms : List String) : Loop :=
  ⟨terms, [], [], .empty limit, false, []⟩

/-- One event of a search with at most `window` terms on the way. -/
inductive Step (source : TermSource) (window : Nat) : Loop → Loop → Prop
  /-- The next term is looked up under all facets. -/
  | launch {term : String} {waiting : List String} {flights : List Flight} {taken : List String} {m : Merger} {c : Bool}
      {calls : List Call} (room : flights.length < window) :
      Step source window ⟨term :: waiting, flights, taken, m, c, calls⟩
        ⟨waiting, flights ++ [⟨term, Facet.all⟩], taken, m, c, calls ++ callsOf term⟩
  /-- A look-up of any term on the way ends, under any facet. -/
  | answer {term : String} {facet : Facet} {awaited : List Facet} {waiting : List String} {before after : List Flight}
      {taken : List String} {m : Merger} {c : Bool} {calls : List Call} (awaits : facet ∈ awaited) :
      Step source window ⟨waiting, before ++ ⟨term, awaited⟩ :: after, taken, m, c, calls⟩
        ⟨waiting, before ++ ⟨term, awaited.erase facet⟩ :: after, taken, m, c, calls⟩
  | cancel {waiting : List String} {flights : List Flight} {taken : List String} {m : Merger} {c : Bool}
      {calls : List Call} :
      Step source window ⟨waiting, flights, taken, m, c, calls⟩ ⟨waiting, flights, taken, m, true, calls⟩
  /-- The first term on the way is taken in when all its look-ups have ended. A cancellation may have come since it was
  last looked for. -/
  | takeIn {term : String} {waiting : List String} {flights : List Flight} {taken : List String} {m : Merger} {c : Bool}
      {calls : List Call} (room : m.isFull = false) :
      Step source window ⟨waiting, ⟨term, []⟩ :: flights, taken, m, c, calls⟩
        ⟨waiting, flights, taken ++ [term], m.extend (batch source term), c, calls⟩

/-- The search ends here with this result. -/
inductive Ends : Loop → Except SearchError Outcome → Prop
  | full {s : Loop} (full : s.merger.isFull = true) : Ends s (.ok (.complete s.merger.recipes))
  | exhausted {s : Loop} (waiting : s.waiting = []) (flights : s.flights = []) :
      Ends s (.ok (.complete s.merger.recipes))
  | noticed {s : Loop} (room : s.merger.isFull = false) (cancelled : s.cancelled = true) :
      Ends s (Ending.cancelled.result s.merger)

/-- A state that the search for some terms can get to. -/
def Reachable (source : TermSource) (limits : Limits) (terms : List String) (s : Loop) : Prop :=
  ReflTransGen (Step source (max 1 limits.termConcurrency)) (initial limits.maxResults terms) s

/-! ## What every event keeps -/

/-- The merger has taken in the batches of the first terms, the other terms are still there, and the look-ups are those
of the terms that are not waiting. -/
structure Sound (source : TermSource) (limit : Nat) (terms : List String) (s : Loop) : Prop where
  order : s.taken ++ (s.flights.map Flight.term ++ s.waiting) = terms
  merger : s.merger = (Merger.empty limit).extend (s.taken.flatMap (batch source))
  calls : s.calls = (s.taken ++ s.flights.map Flight.term).flatMap callsOf

variable {source : TermSource} {window limit : Nat} {limits : Limits} {terms : List String} {s s' : Loop}

theorem sound_initial : Sound source limit terms (initial limit terms) where
  order := rfl
  merger := rfl
  calls := rfl

theorem Step.sound (h : Step source window s s') (hs : Sound source limit terms s) : Sound source limit terms s' := by
  obtain ⟨order, merger, calls⟩ := hs
  cases h with
  | launch room =>
    refine ⟨by simpa using order, merger, ?_⟩
    simp only at calls
    simp [calls]
  | answer awaits => exact ⟨by simpa using order, merger, by simpa using calls⟩
  | cancel => exact ⟨order, merger, calls⟩
  | takeIn room =>
    refine ⟨by simpa using order, ?_, by simpa using calls⟩
    simp only at merger
    rw [merger, ← Merger.extend_append]
    simp

/-- Every state that a search can get to is sound. -/
theorem Reachable.sound (h : Reachable source limits terms s) : Sound source limits.maxResults terms s := by
  induction h with
  | refl => exact sound_initial
  | tail _ step ih => exact step.sound ih

theorem Step.length_flights_le (h : Step source window s s') (hs : s.flights.length ≤ window) :
    s'.flights.length ≤ window := by
  cases h with
  | launch room =>
    rw [List.length_append, List.length_singleton]
    exact room
  | answer awaits => simpa using hs
  | cancel => exact hs
  | takeIn room => exact Nat.le_of_succ_le hs

/-- **No more terms than the window allows are on the way at any time.** -/
theorem Reachable.length_flights_le (h : Reachable source limits terms s) :
    s.flights.length ≤ max 1 limits.termConcurrency := by
  induction h with
  | refl => exact Nat.zero_le _
  | tail _ step ih => exact step.length_flights_le ih

/-- The terms taken in are the first ones. -/
theorem Sound.take_terms (hs : Sound source limit terms s) : terms.take s.taken.length = s.taken := by
  rw [← hs.order, List.take_left]

/-- **The look-ups are those of the terms that have been started**, which are the first ones. -/
theorem Sound.calls_eq (hs : Sound source limit terms s) :
    s.calls = (terms.take (s.taken.length + s.flights.length)).flatMap callsOf := by
  rw [hs.calls, ← hs.order, ← List.append_assoc, List.take_left']
  simp

/-- **A search settles in whatever order its events come.** -/
theorem Ends.settled {answers : Answers} {delay : Facet → String → Nat} {result : Except SearchError Outcome}
    (h : Ends s result) (hs : Sound (answers.after delay) limit terms s) :
    Settled answers limit terms (fun k => s.cancelled = true ∧ k = s.taken.length) result := by
  have hm : s.merger = (Merger.empty limit).extend (answers.inOrder s.taken) := hs.merger
  cases h with
  | full hfull =>
    show s.merger.recipes = answers.merged limit terms
    rw [hm] at hfull ⊢
    rw [recipes_extend_inOrder, ← hs.order, merged_append_of_isFull hfull]
  | exhausted hwaiting hflights =>
    have hall : s.taken = terms := by
      simpa [hwaiting, hflights] using hs.order
    show s.merger.recipes = answers.merged limit terms
    rw [hm, recipes_extend_inOrder, hall]
  | noticed room cancelled =>
    exact settled_cancelled ⟨cancelled, rfl⟩ (by rw [hs.take_terms, hm]) room

/-! ## Runs of events -/

/-- Terms are started while the window has room for them. -/
theorem reaches_launched {more waiting taken : List String} {flights : List Flight} {m : Merger} {c : Bool}
    {calls : List Call} (room : flights.length + more.length ≤ window) :
    ReflTransGen (Step source window) ⟨more ++ waiting, flights, taken, m, c, calls⟩
      ⟨waiting, flights ++ more.map (⟨·, Facet.all⟩), taken, m, c, calls ++ more.flatMap callsOf⟩ := by
  induction more generalizing flights calls with
  | nil => simpa using ReflTransGen.refl
  | cons term more ih =>
    rw [List.length_cons] at room
    have launched : Step source window ⟨term :: more ++ waiting, flights, taken, m, c, calls⟩
        ⟨more ++ waiting, flights ++ [⟨term, Facet.all⟩], taken, m, c, calls ++ callsOf term⟩ := .launch (by omega)
    refine .head launched ?_
    rw [List.map_cons, List.flatMap_cons, List.append_cons flights _ (more.map _), ← List.append_assoc calls]
    refine ih ?_
    rw [List.length_append, List.length_singleton]
    omega

/-- A term on its way is answered under all facets, one after the other. -/
theorem reaches_answered {term : String} {awaited : List Facet} {waiting : List String} {flights : List Flight}
    {taken : List String} {m : Merger} {c : Bool} {calls : List Call} :
    ReflTransGen (Step source window) ⟨waiting, ⟨term, awaited⟩ :: flights, taken, m, c, calls⟩
      ⟨waiting, ⟨term, []⟩ :: flights, taken, m, c, calls⟩ := by
  induction awaited with
  | nil => exact .refl
  | cons facet awaited ih =>
    have answered : Step source window ⟨waiting, [] ++ ⟨term, facet :: awaited⟩ :: flights, taken, m, c, calls⟩
        ⟨waiting, [] ++ ⟨term, (facet :: awaited).erase facet⟩ :: flights, taken, m, c, calls⟩ :=
      .answer List.mem_cons_self
    rw [List.erase_cons_head] at answered
    exact .head answered ih

/-- A term is started with some of those behind it, answered and taken in. -/
theorem reaches_taken {term : String} {more waiting taken : List String} {m : Merger} {c : Bool} {calls : List Call}
    (hmore : more.length < window) (room : m.isFull = false) :
    ReflTransGen (Step source window) ⟨term :: (more ++ waiting), [], taken, m, c, calls⟩
      ⟨waiting, more.map (⟨·, Facet.all⟩), taken ++ [term], m.extend (batch source term), c,
        calls ++ (term :: more).flatMap callsOf⟩ := by
  have launched : ReflTransGen (Step source window) ⟨term :: more ++ waiting, [], taken, m, c, calls⟩
      ⟨waiting, [] ++ (term :: more).map (⟨·, Facet.all⟩), taken, m, c, calls ++ (term :: more).flatMap callsOf⟩ :=
    reaches_launched (by simpa using hmore)
  exact launched.trans (reaches_answered.trans (.single (.takeIn room)))

/-- A search is cancelled after some of its terms have been started, and notices it. -/
theorem reaches_noticed {waiting taken : List String} {n ahead : Nat} {m : Merger} {calls : List Call}
    (hn : taken.length = n) (room : m.isFull = false) (hahead : ahead ≤ window)
    (hthere : n + ahead ≤ n + waiting.length) :
    ∃ s, ReflTransGen (Step source window) ⟨waiting, [], taken, m, false, calls⟩ s ∧
      s.Ends (Ending.cancelled.result m) ∧ s.flights.length = ahead ∧ s.taken.length = n := by
  have hlength : (waiting.take ahead).length = ahead := by
    rw [List.length_take]
    omega
  have launched : ReflTransGen (Step source window)
      ⟨waiting.take ahead ++ waiting.drop ahead, [], taken, m, false, calls⟩
      ⟨waiting.drop ahead, (waiting.take ahead).map (⟨·, Facet.all⟩), taken, m, false,
        calls ++ (waiting.take ahead).flatMap callsOf⟩ := by
    refine reaches_launched ?_
    rw [hlength, List.length_nil]
    omega
  rw [List.take_append_drop] at launched
  exact ⟨_, launched.tail .cancel, .noticed room rfl, by rw [List.length_map, hlength], hn⟩

/-- What `collect` comes to can be come to with any number of terms on the way at the end for which there is room in the
window. The window has room for one term less when the last one taken in has filled the merger, since no other one is
started in its place. -/
theorem reaches_collect (hw : 0 < window) {cutoff : Option Nat} {taken waiting : List String} {n ahead : Nat}
    {m m' : Merger} {ending : Ending} {calls : List Call}
    (hcollect : collect cutoff n m (waiting.map (batch source)) = (m', ending)) (hn : taken.length = n)
    (room : m.isFull = false) (hahead : ahead ≤ window) (hfull : ∀ k, ending = .full k → ahead < window)
    (hthere : ending.taken cutoff (n + waiting.length) + ahead ≤ n + waiting.length) :
    ∃ s, ReflTransGen (Step source window) ⟨waiting, [], taken, m, false, calls⟩ s ∧ s.Ends (ending.result m') ∧
      s.flights.length = ahead ∧ s.taken.length = ending.taken cutoff (n + waiting.length) := by
  induction waiting generalizing taken n m calls with
  | nil =>
    rw [List.map_nil] at hcollect
    by_cases hc : cutoff = some n
    · rw [collect_of_cutoff hc] at hcollect
      cases hcollect
      rw [Ending.taken, hc, Option.getD_some] at hthere ⊢
      exact reaches_noticed hn room hahead hthere
    · rw [collect_nil hc] at hcollect
      cases hcollect
      rw [Ending.taken, List.length_nil] at hthere
      obtain rfl : ahead = 0 := by omega
      exact ⟨_, .refl, .exhausted rfl rfl, rfl, hn⟩
  | cons term waiting ih =>
    have hn' : (taken ++ [term]).length = n + 1 := by rw [List.length_append, hn, List.length_singleton]
    rw [List.map_cons] at hcollect
    by_cases hc : cutoff = some n
    · rw [collect_of_cutoff hc] at hcollect
      cases hcollect
      rw [Ending.taken, hc, Option.getD_some] at hthere ⊢
      exact reaches_noticed hn room hahead hthere
    cases hm : (m.extend (batch source term)).isFull with
    | true =>
      rw [collect_cons_of_full hc hm] at hcollect
      cases hcollect
      rw [Ending.taken, List.length_cons] at hthere
      have hlength : (waiting.take ahead).length = ahead := by
        rw [List.length_take]
        omega
      have taking : ReflTransGen (Step source window)
          ⟨term :: (waiting.take ahead ++ waiting.drop ahead), [], taken, m, false, calls⟩
          ⟨waiting.drop ahead, (waiting.take ahead).map (⟨·, Facet.all⟩), taken ++ [term],
            m.extend (batch source term), false, calls ++ (term :: waiting.take ahead).flatMap callsOf⟩ :=
        reaches_taken (by rw [hlength]; exact hfull _ rfl) room
      rw [List.take_append_drop] at taking
      exact ⟨_, taking, .full hm, by rw [List.length_map, hlength], hn'⟩
    | false =>
      rw [collect_cons_of_room hc hm] at hcollect
      have taking : ReflTransGen (Step source window) ⟨term :: ([] ++ waiting), [], taken, m, false, calls⟩
          ⟨waiting, [], taken ++ [term], m.extend (batch source term), false, calls ++ [term].flatMap callsOf⟩ :=
        reaches_taken hw room
      have hplace : n + (term :: waiting).length = n + 1 + waiting.length := by
        rw [List.length_cons]
        omega
      rw [hplace] at hthere ⊢
      obtain ⟨s, hs, hends⟩ := ih hcollect hn' hm hthere
      exact ⟨s, taking.trans hs, hends⟩

end Loop

/-! ## The search of `run` -/

/-- The number of terms that a search has started when it ends like this. -/
def Ending.started (turns : List Turn) (cancel : Cancel) : Ending → Nat
  | full n => max n (turns.takeWhile (·.start < doneAt turns (n - 1))).length
  | exhausted => turns.length
  | cancelled => cancel.started turns

section Started

variable {terms : List String} {source : TermSource} {limits : Limits} {cancel : Cancel} {m : Merger} {ending : Ending}

theorem started_run_eq (hzero : limits.maxResults ≠ 0)
    (hc : collect (cutoffOf terms source limits cancel) 0 (.empty limits.maxResults) (terms.map (batch source)) =
      (m, ending)) :
    (run terms source limits cancel).started =
      ending.started (schedule (max 1 limits.termConcurrency) (terms.map (duration source))) cancel := by
  rw [cutoffOf] at hc
  simp only [run, if_neg hzero, hc]
  cases ending <;> rfl

/-- **The terms that a search has started are a window ahead at most** of those that it has taken in, and one less when
it is full. -/
theorem started_bounds (hzero : limits.maxResults ≠ 0)
    (hc : collect (cutoffOf terms source limits cancel) 0 (.empty limits.maxResults) (terms.map (batch source)) =
      (m, ending)) :
    ending.taken (cutoffOf terms source limits cancel) terms.length ≤ (run terms source limits cancel).started ∧
      (run terms source limits cancel).started ≤ terms.length ∧
      (run terms source limits cancel).started ≤
        ending.taken (cutoffOf terms source limits cancel) terms.length + max 1 limits.termConcurrency ∧
      ∀ n, ending = .full n → (run terms source limits cancel).started < n + max 1 limits.termConcurrency := by
  have hw : 0 < max 1 limits.termConcurrency := by omega
  have hlength : (schedule (max 1 limits.termConcurrency) (terms.map (duration source))).length = terms.length := by
    rw [schedule, length_scheduleFrom, List.length_map]
  rw [started_run_eq hzero hc]
  cases ending with
  | full n =>
    obtain ⟨hpos, hn⟩ := collect_full (congrArg Prod.snd hc)
    have horder := inOrder_schedule (max 1 limits.termConcurrency) (terms.map (duration source))
    have hstarted : _ ≤ n - 1 + max 1 limits.termConcurrency :=
      length_started_le hw fun i hi hlt => horder.doneAt_le hi hlt
    have hall := length_started_le_length (schedule (max 1 limits.termConcurrency) (terms.map (duration source)))
      (doneAt (schedule (max 1 limits.termConcurrency) (terms.map (duration source))) (n - 1))
    rw [List.length_map] at hn
    rw [Ending.started, Ending.taken]
    refine ⟨by omega, by omega, by omega, ?_⟩
    rintro n' h
    cases h
    omega
  | exhausted =>
    rw [Ending.started, Ending.taken]
    exact ⟨by omega, by omega, by omega, fun n h => by cases h⟩
  | cancelled =>
    obtain ⟨k, -, hk, -⟩ := (collect_cancelled_iff (Merger.isFull_empty_of_ne hzero)).1 hc
    rw [Nat.zero_add] at hk
    rw [Ending.taken, Ending.started, hk, Option.getD_some, ← hlength]
    rw [cutoffOf] at hk
    exact ⟨Cancel.cutoff_le_started hk, Cancel.started_le_length _ _, Cancel.started_le_cutoff hw hk,
      fun n h => by cases h⟩

end Started

namespace Loop

/-- **The search with known delays is one in some order of events, which record the look-ups of the terms that it has
started.** -/
theorem reachable_run (terms : List String) (source : TermSource) (limits : Limits) (cancel : Cancel) :
    ∃ s, Reachable source limits terms s ∧ s.Ends (run terms source limits cancel).result ∧
      s.calls = (terms.take (run terms source limits cancel).started).flatMap callsOf := by
  by_cases hzero : limits.maxResults = 0
  · rw [result_run_zero _ _ _ hzero, run, if_pos hzero]
    exact ⟨_, .refl, .full (Merger.isFull_empty_iff.2 hzero), rfl⟩
  · have room : (Merger.empty limits.maxResults).isFull = false := Merger.isFull_empty_of_ne hzero
    have hw : 0 < max 1 limits.termConcurrency := by omega
    obtain ⟨⟨m, ending⟩, hc⟩ : ∃ r, collect (cutoffOf terms source limits cancel) 0 (.empty limits.maxResults)
        (terms.map (batch source)) = r := ⟨_, rfl⟩
    obtain ⟨hmin, hall, hmax, hfull⟩ := started_bounds hzero hc
    obtain ⟨ahead, hahead⟩ := Nat.exists_eq_add_of_le hmin
    rw [hahead] at hall hmax hfull
    obtain ⟨s, hs, hends, hflights, htaken⟩ : ∃ s, Reachable source limits terms s ∧ s.Ends (ending.result m) ∧
        s.flights.length = ahead ∧
        s.taken.length = ending.taken (cutoffOf terms source limits cancel) (0 + terms.length) := by
      refine reaches_collect hw hc rfl room (by omega) ?_ (by rw [Nat.zero_add]; exact hall)
      rintro n rfl
      have hlt := hfull n rfl
      rw [Ending.taken] at hlt
      omega
    rw [Nat.zero_add] at htaken
    refine ⟨s, hs, ?_, ?_⟩
    · rw [result_run _ _ _ hzero hc]
      exact hends
    · rw [hs.sound.calls_eq, hflights, htaken, hahead]

end Loop

end RecipeSearch.Search
