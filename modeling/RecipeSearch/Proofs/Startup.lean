import RecipeSearch.Proofs.Settings.Loading
import RecipeSearch.Proofs.Text.Pieces
import RecipeSearch.Startup
import RecipeSearch.Web.Server

/-!
# Which settings can be served

The origins in the settings are the parts of a text between commas, without the blanks around them
(`splitOrigins_eq_parts`). **Settings that load can be served unless the wildcard is one of these parts**
(`build?_of_load`): then the pages that may ask are those of the origins that can stand in a header, each of them
whatever the others are. It is not so that all settings that load can be served: a lone wildcard loads
(`build?_wildcard`).
-/

namespace RecipeSearch

/-! ## Origins in the settings -/

namespace Settings

theorem splitOrigins_eq_parts (text : String) :
    splitOrigins text =
      (((Text.parts (· ≠ ',') text.toList).map Text.trim).filter (· ≠ [])).map String.ofList := by
  -- nothing is left of an empty part, so that it makes no difference when it is dropped
  have hempty (part : List Char) (h : Text.trim part ≠ []) : part ≠ [] := by
    rintro rfl
    exact h rfl
  rw [splitOrigins, Text.runs_eq_filter_parts, List.filter_map, List.filter_map, List.filter_filter]
  congr 2
  refine List.filter_congr fun part _ => ?_
  simpa using hempty part

/-- The wildcard is one of the parts of the variable for the origins. -/
def ListsWildcard (env : Environment) : Prop :=
  ∃ text, env "ALLOWED_ORIGINS" = some text ∧ ∃ part ∈ Text.parts (· ≠ ',') text.toList, Text.trim part = ['*']

theorem wildcard_mem_iff {args : List String} {env : Environment} {s : Settings} (h : load args env = .ok s) :
    "*" ∈ s.allowedOrigins ↔ ListsWildcard env := by
  obtain ⟨_, _, _, _, _, hmade⟩ := exists_madeOf h
  rw [hmade.allowedOrigins, ListsWildcard]
  cases env "ALLOWED_ORIGINS" with
  | none => simp [standard]
  | some text =>
    rw [Option.map_some, Option.getD_some, splitOrigins_eq_parts, List.mem_map]
    constructor
    · rintro ⟨cs, hcs, heq⟩
      obtain rfl : cs = ['*'] := by rw [← String.toList_ofList (l := cs), heq]; rfl
      obtain ⟨part, hpart, htrim⟩ := List.mem_map.1 (List.mem_filter.1 hcs).1
      exact ⟨text, rfl, part, hpart, htrim⟩
    · rintro ⟨_, ⟨⟩, part, hpart, htrim⟩
      exact ⟨['*'], List.mem_filter.2 ⟨List.mem_map.2 ⟨part, hpart, htrim⟩, by decide⟩, rfl⟩

end Settings

/-! ## Origins of the server -/

namespace Web.Origins

theorem isHeaderValue_wildcard : isHeaderValue "*" = true := by decide

theorem ofList?_eq_none_iff {origins : List String} : ofList? origins = none ↔ "*" ∈ origins := by
  rw [ofList?]
  split
  · next h => exact iff_of_true rfl (List.mem_filter.1 h).1
  · next h => exact iff_of_false nofun fun hmem => h (List.mem_filter.2 ⟨hmem, isHeaderValue_wildcard⟩)

theorem allowed_of_ofList? {origins : List String} {o : Origins} (h : ofList? origins = some o) :
    o.allowed = origins.filter isHeaderValue := by
  rw [ofList?] at h
  split at h
  · cases h
  · cases h
    rfl

end Web.Origins

namespace Startup

open Web (Server Origins)

/-- **Settings that load can be served unless they list the wildcard.** Then the origins that may ask are those listed
that can stand in a header. -/
theorem build?_of_load {args : List String} {env : Settings.Environment} {s : Settings}
    (h : Settings.load args env = .ok s) (catalogue : Catalogue) :
    (Server.build? s.allowedOrigins catalogue s.limits = none ↔ Settings.ListsWildcard env) ∧
      (run args env = .wildcardListed s ↔ Settings.ListsWildcard env) ∧
      ∀ server, Server.build? s.allowedOrigins catalogue s.limits = some server →
        run args env = .ready s ∧
          ∀ origin, server.origins.admitted (some origin) = some origin ↔
            origin ∈ s.allowedOrigins ∧ Origins.isHeaderValue origin = true := by
  have hrun : run args env = if (Origins.ofList? s.allowedOrigins).isSome then ready s else wildcardListed s := by
    rw [run, h]
  rw [hrun, ← Settings.wildcard_mem_iff h, ← Origins.ofList?_eq_none_iff, Server.build?]
  cases horigins : Origins.ofList? s.allowedOrigins with
  | none => simp
  | some o =>
    refine ⟨by simp, by simp, ?_⟩
    rintro server ⟨⟩
    refine ⟨rfl, fun origin => ?_⟩
    rw [← List.mem_filter, ← Origins.allowed_of_ofList? horigins, Origins.admitted]
    simp

/-- Two origins, one that cannot stand in a header, and a wildcard that is only a part of an origin. -/
theorem build?_of_load_mixed :
    let env : Settings.Environment := fun key =>
      [("ALLOWED_ORIGINS", " http://a.test,,x\x01y, http://*.test ")].lookup key
    let s : Settings := { Settings.standard with allowedOrigins := ["http://a.test", "x\x01y", "http://*.test"] }
    let catalogue : Catalogue := ⟨fun _ _ => ⟨0, .ok []⟩, .ok [], .ok [], .ok [], fun _ => .ok none⟩
    Settings.load [] env = .ok s ∧
      ∃ server, Server.build? s.allowedOrigins catalogue s.limits = some server ∧ run [] env = .ready s ∧
        server.origins.admitted (some "http://*.test") = some "http://*.test" ∧
        server.origins.admitted (some "x\x01y") ≠ some "x\x01y" := by
  intro env s catalogue
  have hs : Settings.load [] env = .ok s := by decide +kernel
  have horigins : (Origins.ofList? s.allowedOrigins).isSome = true := by decide
  obtain ⟨o, ho⟩ := Option.isSome_iff_exists.1 horigins
  have hserver : Server.build? s.allowedOrigins catalogue s.limits = some ⟨o, catalogue, s.limits⟩ := by
    rw [Server.build?, ho, Option.map_some]
  obtain ⟨hready, hadmitted⟩ := (build?_of_load hs catalogue).2.2 _ hserver
  exact ⟨hs, _, hserver, hready, (hadmitted _).2 (by decide), fun h => absurd ((hadmitted _).1 h).2 (by decide)⟩

/-- **A lone wildcard loads and cannot be served.** -/
theorem build?_wildcard :
    let args := ["--bind", "203.0.113.1:80"]
    let env : Settings.Environment := fun key => [("ALLOWED_ORIGINS", "*")].lookup key
    let s : Settings := { Settings.standard with bind := .v4 [203, 0, 113, 1] 80, allowedOrigins := ["*"] }
    let catalogue : Catalogue := ⟨fun _ _ => ⟨0, .ok []⟩, .ok [], .ok [], .ok [], fun _ => .ok none⟩
    Settings.load args env = .ok s ∧ (Server.build? s.allowedOrigins catalogue s.limits).isNone = true ∧
      run args env = .wildcardListed s := by
  intro args env s catalogue
  have hs : Settings.load args env = .ok s := by decide +kernel
  exact ⟨hs, by decide, by decide +kernel⟩

end Startup

end RecipeSearch
