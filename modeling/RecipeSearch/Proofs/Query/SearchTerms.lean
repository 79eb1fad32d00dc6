import RecipeSearch.Proofs.Query.Stripping
import RecipeSearch.Proofs.Text.Joining

/-!
# What the search terms of a query are

A query is stripped of operators and parentheses, whatever the order in which these are blanked out
(`strip_eq_foldl_of_perm`), and none of them is left (`not_isInfix_strip`). Of the parts between spaces that are longer
than two characters (`longParts`) the search terms are the first ones of those that agree in lower case
(`searchTerms_eq_distinctOn`). Joined with spaces, the terms of a query have nothing to be stripped of and no part that
is no term, so that **they are the terms of a query of their own** (`searchTerms_normalForm`).
-/

namespace RecipeSearch.Query

open Text

/-! ## Stripping -/

/-- No stripped word is the beginning of another one. -/
theorem prefixFree_strippedWords : PrefixFree strippedWords := by
  decide

/-- **It does not matter in which order a query is stripped.** -/
theorem strip_eq_foldl_of_perm {words : List (List Char)} (h : words.Perm strippedWords) (cs : List Char) :
    words.foldl (fun text word => blankOut word text) cs = strip cs :=
  foldl_blankOut_perm separate_strippedWords prefixFree_strippedWords h cs

/-- Nothing is left to be stripped of. -/
theorem not_isInfix_strip {word : List Char} (h : word ∈ strippedWords) (cs : List Char) : ¬ word <:+: strip cs := by
  rw [strip_eq_blankOutAny]
  exact not_isInfix_blankOutAny separate_strippedWords h cs

theorem strip_eq_self {cs : List Char} (h : ∀ word ∈ strippedWords, ¬ word <:+: cs) : strip cs = cs := by
  rw [strip_eq_blankOutAny, blankOutAny_eq_self h]

/-! ## The parts of a stripped query -/

/-- The parts between spaces of a stripped query that are longer than two characters. -/
def longParts (query : String) : List String :=
  (((strip query.toList).splitOn ' ').filter fun part => 2 < part.length).map String.ofList

theorem longWords_eq_filter_splitOn (cs : List Char) :
    longWords cs = (cs.splitOn ' ').filter fun part => 2 < part.length := by
  rw [longWords, runs_ne_eq_filter_splitOn, List.filter_filter]
  refine List.filter_congr fun part _ => ?_
  cases part with
  | nil => rfl
  | cons c part => simp

theorem longParts_eq (query : String) : longParts query = (longWords (strip query.toList)).map String.ofList := by
  rw [longParts, longWords_eq_filter_splitOn]

/-- The search terms are the first long parts of those that agree in lower case. -/
theorem searchTerms_eq_distinctOn (query : String) : searchTerms query = distinctOn lowercase (longParts query) := by
  have hlower (w : List Char) : lowercase (String.ofList w) = String.ofList (lower w) := by
    rw [lowercase, String.toList_ofList]
  rw [longParts_eq, distinctOn_map (fun _ _ => String.ofList_injective) hlower, searchTerms]

/-- A long part is longer than two characters, and has neither a space nor a word that is stripped. -/
structure IsLongPart (part : List Char) : Prop where
  long : 2 < part.length
  no_space : ' ' ∉ part
  no_word : ∀ word ∈ strippedWords, ¬ word <:+: part

theorem isLongPart_of_mem {query part : String} (h : part ∈ longParts query) : IsLongPart part.toList := by
  rw [longParts_eq] at h
  obtain ⟨w, hw, rfl⟩ := List.mem_map.1 h
  rw [String.toList_ofList]
  obtain ⟨hrun, hlong⟩ := List.mem_filter.1 hw
  obtain ⟨-, hspace, hinfix⟩ := mem_runs hrun
  refine ⟨by simpa using hlong, fun hmem => by simpa using hspace ' ' hmem, fun word hword hin => ?_⟩
  exact not_isInfix_strip hword _ (hin.trans hinfix)

/-- Long parts have no characters that are not in the query. -/
theorem mem_of_mem_longParts {query part : String} (h : part ∈ longParts query) {c : Char} (hc : c ∈ part.toList) :
    c ∈ query.toList := by
  have hspace : c ≠ ' ' := by
    rintro rfl
    exact (isLongPart_of_mem h).no_space hc
  rw [longParts_eq] at h
  obtain ⟨w, hw, rfl⟩ := List.mem_map.1 h
  rw [String.toList_ofList] at hc
  have hstrip : c ∈ strip query.toList := (mem_runs (List.mem_filter.1 hw).1).2.2.subset hc
  rw [strip_eq_blankOutAny] at hstrip
  exact (mem_of_mem_blankOutAny separate_strippedWords hstrip).resolve_left hspace

theorem IsLongPart.ne_nil {part : List Char} (h : IsLongPart part) : part ≠ [] := by
  rintro rfl
  exact absurd h.long (by simp)

theorem IsLongPart.not_isParenthesis {part : List Char} (h : IsLongPart part) {c : Char} (hc : c ∈ part) :
    isParenthesis c = false := by
  rw [← Bool.not_eq_true]
  intro hparen
  refine h.no_word [c] (mem_strippedWords_iff.2 (.inr ⟨c, hparen, rfl⟩)) ?_
  exact (List.singleton_infix_iff c part).2 hc

/-- Long parts that are joined with spaces are the long parts of the text. -/
theorem longParts_intercalate {ps : List String} (h : ∀ part ∈ ps, IsLongPart part.toList) :
    longParts (" ".intercalate ps) = ps := by
  have hwords : ∀ w ∈ ps.map String.toList, IsLongPart w := by simpa using h
  have hstrip : strip ([' '].intercalate (ps.map String.toList)) = [' '].intercalate (ps.map String.toList) := by
    refine strip_eq_self fun word hword hin => ?_
    obtain ⟨w, hw, hin⟩ := exists_isInfix_of_intercalate (separate_strippedWords.ne_nil word hword)
      (separate_strippedWords.no_blank word hword) hin
    exact (hwords w hw).no_word word hword hin
  have hruns : runs (· ≠ ' ') ([' '].intercalate (ps.map String.toList)) = ps.map String.toList := by
    refine runs_intercalate (by simp) fun w hw => ⟨(hwords w hw).ne_nil, fun c hc => ?_⟩
    rw [decide_eq_true_eq]
    rintro rfl
    exact (hwords w hw).no_space hc
  have hlong : ∀ w ∈ ps.map String.toList, decide (w.length > 2) = true := fun w hw =>
    decide_eq_true (hwords w hw).long
  have hspace : " ".toList = [' '] := rfl
  rw [longParts_eq, String.toList_intercalate, hspace, hstrip, longWords, hruns, List.filter_eq_self.2 hlong,
    List.map_map]
  simp [Function.comp_def]

/-! ## The search terms -/

/-- The search terms of a query that is stripped of some words, one after the other. -/
def searchTermsBy (words : List (List Char)) (query : String) : List String :=
  (distinctOn lower (longWords (words.foldl (fun text word => blankOut word text) query.toList))).map String.ofList

theorem mem_longParts_of_mem_searchTerms {query term : String} (h : term ∈ searchTerms query) :
    term ∈ longParts query := by
  rw [searchTerms_eq_distinctOn] at h
  exact mem_of_mem_distinctOn h

theorem isLongPart_of_mem_searchTerms {query term : String} (h : term ∈ searchTerms query) :
    IsLongPart term.toList :=
  isLongPart_of_mem (mem_longParts_of_mem_searchTerms h)

/-- **The search terms of a query** are longer than two characters and have neither spaces nor operators in them. They
are the first of the long parts between spaces with each text in lower case, in order, whatever the order in which the
query is stripped; and joined with spaces they have themselves as terms. -/
theorem searchTerms_normalForm (query : String) :
    (∀ term ∈ searchTerms query, 2 < term.length ∧ ' ' ∉ term.toList ∧
        ∀ word ∈ ["AND", "OR", "NOT", "(", ")"], ¬ word.toList <:+: term.toList) ∧
      ((searchTerms query).map lowercase).Nodup ∧
      (∀ words, words.Perm strippedWords → searchTermsBy words query = searchTerms query) ∧
      FirstsOn lowercase (longParts query) (searchTerms query) ∧
      searchTerms (" ".intercalate (searchTerms query)) = searchTerms query := by
  have hdistinct : ((searchTerms query).map lowercase).Nodup := by
    rw [searchTerms_eq_distinctOn]
    exact nodup_map_distinctOn lowercase _
  refine ⟨fun term hterm => ?_, hdistinct, fun words hwords => ?_, ?_, ?_⟩
  · have hpart := isLongPart_of_mem_searchTerms hterm
    rw [← String.length_toList]
    refine ⟨hpart.long, hpart.no_space, fun word hword => hpart.no_word word.toList ?_⟩
    exact List.mem_map_of_mem hword
  · rw [searchTermsBy, strip_eq_foldl_of_perm hwords, searchTerms]
  · rw [searchTerms_eq_distinctOn]
    exact firstsOn_distinctOn lowercase _
  · rw [searchTerms_eq_distinctOn (" ".intercalate _),
      longParts_intercalate fun term hterm => isLongPart_of_mem_searchTerms hterm, distinctOn_eq_self hdistinct]

/-- What is left where an operator stands inside a word is two terms, and it is not put together to another one. -/
example : searchTerms "sANDal ORaNge (NNOTOTe) Orange" = ["aNge", "OTe", "Orange"] := by
  decide +kernel

end RecipeSearch.Query
