import RecipeSearch.Proofs.Query.Rejoining
import RecipeSearch.Proofs.Query.SearchTerms
import RecipeSearch.Proofs.Text.Lowercase
import RecipeSearch.Service.Basic

/-!
# What a search of the service looks up

The verdict takes white space of any kind for a separator, while search terms are told apart by spaces only. Hence a
term of an accepted query has letters and underscores in it, and white space other than spaces
(`letter_or_blank_of_mem_longParts`). **The terms are words of letters and underscores exactly if no long part of the
query has white space in it** (`forall_isPlainWord_iff`): a part that is left out agrees in lower case with one that is
kept, and lower case neither adds white space nor takes it away. It is so if spaces are the only white space of the
query. The service looks up nothing but the terms (`mem_calls_search`).
-/

namespace RecipeSearch.Service

open Text
open Query (searchTerms longParts isLetter IsPlainWord)
open Search (Cancel)

variable {query normalized : String}

/-! ## Long parts -/

section LongParts

variable {part : String}

/-- A long part of an accepted query has letters, underscores and white space other than spaces. -/
theorem letter_or_blank_of_mem_longParts (h : Query.validate query = .ok normalized)
    (hpart : part ∈ longParts normalized) {c : Char} (hc : c ∈ part.toList) :
    isLetter c = true ∨ c = '_' ∨ isBlank c = true ∧ c ≠ ' ' := by
  have hlong := Query.isLongPart_of_mem hpart
  have hquery : Query.isQueryChar c = true := (Query.validate_eq_ok h).2.2 c (Query.mem_of_mem_longParts hpart hc)
  cases hblank : isBlank c with
  | true => exact .inr (.inr ⟨rfl, fun heq => hlong.no_space (heq ▸ hc)⟩)
  | false =>
    exact (Query.isLetter_or_of_isQueryChar hquery hblank (hlong.not_isParenthesis hc)).imp_right .inl

/-- A long part is a word of letters and underscores exactly if it has no white space. -/
theorem isPlainWord_iff_of_mem_longParts (h : Query.validate query = .ok normalized)
    (hpart : part ∈ longParts normalized) : IsPlainWord part.toList ↔ part.toList.any isBlank = false := by
  simp only [List.any_eq_false, Bool.not_eq_true]
  constructor
  · intro hplain c hc
    exact hplain.not_isBlank c hc
  · intro hblank
    refine ⟨(Query.isLongPart_of_mem hpart).ne_nil, fun c hc => ?_⟩
    rcases letter_or_blank_of_mem_longParts h hpart hc with hletter | hletter | ⟨hc', -⟩
    · exact .inl hletter
    · exact .inr hletter
    · rw [hblank c hc] at hc'
      cases hc'

/-- **The terms of an accepted query are words of letters and underscores exactly if no long part has white space.** -/
theorem forall_isPlainWord_iff (h : Query.validate query = .ok normalized) :
    (∀ term ∈ searchTerms normalized, IsPlainWord term.toList) ↔
      ∀ part ∈ longParts normalized, part.toList.any isBlank = false := by
  constructor
  · intro hplain part hpart
    -- the part may be left out, but the term that stands for it has white space where the part has
    obtain ⟨term, hterm, hlower⟩ := (firstsOn_distinctOn lowercase (longParts normalized)).complete part hpart
    rw [← Query.searchTerms_eq_distinctOn] at hterm
    rw [← any_isBlank_lowercase, ← hlower, any_isBlank_lowercase,
      ← isPlainWord_iff_of_mem_longParts h (Query.mem_longParts_of_mem_searchTerms hterm)]
    exact hplain term hterm
  · intro hblank term hterm
    have hpart := Query.mem_longParts_of_mem_searchTerms hterm
    exact (isPlainWord_iff_of_mem_longParts h hpart).2 (hblank term hpart)

/-- Where spaces are the only white space, long parts have none. -/
theorem any_isBlank_of_mem_longParts (hspaces : ∀ c ∈ query.toList, isBlank c = true → c = ' ')
    (hpart : part ∈ longParts query) : part.toList.any isBlank = false := by
  simp only [List.any_eq_false]
  intro c hc hblank
  obtain rfl : c = ' ' := hspaces c (Query.mem_of_mem_longParts hpart hc) hblank
  exact (Query.isLongPart_of_mem hpart).no_space hc

end LongParts

/-! ## Look-ups -/

theorem mem_calls_withCancel {source : TermSource} {limits : Limits} {cancel : Cancel} {call : Call}
    (h : call ∈ (Search.withCancel query source limits cancel).calls) :
    ∃ facet, ∃ term ∈ searchTerms query, call = .lookup facet term := by
  obtain ⟨term, hterm, hcall⟩ := List.mem_flatMap.1 h
  obtain ⟨facet, -, rfl⟩ := List.mem_map.1 hcall
  exact ⟨facet, term, List.mem_of_mem_take hterm, rfl⟩

/-- The service looks up nothing but the terms of an accepted query. -/
theorem mem_calls_search {catalogue : Catalogue} {limits : Limits} {cancel : Cancel} {call : Call}
    (h : Query.validate query = .ok normalized) (hcall : call ∈ (search catalogue limits query cancel).calls) :
    ∃ facet, ∃ term ∈ searchTerms normalized, call = .lookup facet term := by
  rw [search, h] at hcall
  exact mem_calls_withCancel hcall

/-- **What is looked up for an accepted query** are its search terms. These are made of letters, underscores and white
space other than spaces. They are words of letters and underscores exactly if no long part of the query has white space
in it, and so if spaces are the only white space of the query. -/
theorem lookups_search (h : Query.validate query = .ok normalized) :
    (∀ term ∈ searchTerms normalized, ∀ c ∈ term.toList,
        isLetter c = true ∨ c = '_' ∨ isBlank c = true ∧ c ≠ ' ') ∧
      ((∀ term ∈ searchTerms normalized, IsPlainWord term.toList) ↔
        ∀ part ∈ longParts normalized, part.toList.any isBlank = false) ∧
      ((∀ c ∈ normalized.toList, isBlank c = true → c = ' ') →
        ∀ term ∈ searchTerms normalized, IsPlainWord term.toList) ∧
      ∀ catalogue limits cancel, ∀ call ∈ (search catalogue limits query cancel).calls,
        ∃ facet, ∃ term ∈ searchTerms normalized, call = .lookup facet term := by
  refine ⟨fun term hterm c hc => ?_, forall_isPlainWord_iff h, fun hspaces => ?_, fun _ _ _ _ => mem_calls_search h⟩
  · exact letter_or_blank_of_mem_longParts h (Query.mem_longParts_of_mem_searchTerms hterm) hc
  · exact (forall_isPlainWord_iff h).2 fun part hpart => any_isBlank_of_mem_longParts hspaces hpart

/-- A tab in a part that is too short for a term does not matter. -/
theorem lookups_search_tab_dropped :
    Query.validate "(Rice)AND a\tNOT(dry_fish)" = .ok "(Rice)AND a\tNOT(dry_fish)" ∧
      searchTerms "(Rice)AND a\tNOT(dry_fish)" = ["Rice", "dry_fish"] ∧
      (∀ term ∈ searchTerms "(Rice)AND a\tNOT(dry_fish)", IsPlainWord term.toList) := by
  have hvalid : Query.validate "(Rice)AND a\tNOT(dry_fish)" = .ok "(Rice)AND a\tNOT(dry_fish)" := by decide
  have hterms : searchTerms "(Rice)AND a\tNOT(dry_fish)" = ["Rice", "dry_fish"] ∧
      ∀ part ∈ longParts "(Rice)AND a\tNOT(dry_fish)", part.toList.any isBlank = false := by
    decide +kernel
  exact ⟨hvalid, hterms.1, (lookups_search hvalid).2.1.2 hterms.2⟩

/-- An accepted query with a tab on either side of the operator. Both of its terms have a tab in them, and are looked
up with it. -/
theorem lookups_search_tab :
    let nothing : Catalogue := ⟨fun _ _ => ⟨0, .ok []⟩, .ok [], .ok [], .ok [], fun _ => .ok none⟩
    Query.validate "rice\tAND\tbeef" = .ok "rice\tAND\tbeef" ∧
      searchTerms "rice\tAND\tbeef" = ["rice\t", "\tbeef"] ∧
      .lookup .name "rice\t" ∈ (search nothing .standard "rice\tAND\tbeef" .never).calls ∧
      isBlank '\t' = true ∧ ¬ IsPlainWord "rice\t".toList := by
  intro nothing
  have hblank : isBlank '\t' = true := by decide
  have hsearch : searchTerms "rice\tAND\tbeef" = ["rice\t", "\tbeef"] ∧
      .lookup .name "rice\t" ∈ (search nothing .standard "rice\tAND\tbeef" .never).calls := by
    decide +kernel
  refine ⟨by decide, hsearch.1, hsearch.2, hblank, fun hplain => ?_⟩
  have hnot : isBlank '\t' = false := hplain.not_isBlank '\t' (by decide)
  rw [hblank] at hnot
  cases hnot

end RecipeSearch.Service
