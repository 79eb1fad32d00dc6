import RecipeSearch.Catalogue.Client
import RecipeSearch.Proofs.Text.Joining
import RecipeSearch.Proofs.Text.Percent
import RecipeSearch.Proofs.Text.Word

/-!
# Which questions are sent

A plain base address has a scheme, the name of a host in lower case, and a path whose segments are made of characters
that an address holds as they are (`Site`). It is read as it is written, part by part: margins and scheme
(`stripMargins_eq_self`, `splitScheme?_text`), host (`ofText?_host`) and path (`sentPath_slashed`). So **a question to a
site whose host is known is sent there**, to the endpoint below the path and with its field in the query, unless the
address would be too long (`Site.address?_new`).
-/

namespace RecipeSearch.Catalogue

open Internet (Host)
open Text (isFormPlain formEncode of_ascii)

/-! ## Plain characters -/

/-- Characters that the name of a host is written with, but for its dots. -/
def isLabelChar (c : Char) : Bool :=
  c.isLower || c.isDigit || c == '-'

theorem ascii_of_isFormPlain {c : Char} (h : isFormPlain c = true) : c.toNat < 128 := by
  by_contra hc
  have halpha : c.isAlpha = false := Text.not_isAlpha_of_not_ascii hc
  have hdigit : c.isDigit = false := by
    rw [← Bool.not_eq_true]
    intro hdigit
    have hle : c.val ≤ '9'.val := of_decide_eq_true (Bool.and_eq_true_iff.1 hdigit).2
    exact hc (Nat.lt_of_le_of_lt (UInt32.le_iff_toNat_le.1 hle) (by decide))
  have hmark : ¬ (c = '*' ∨ c = '-' ∨ c = '.' ∨ c = '_') := by
    rintro (rfl | rfl | rfl | rfl) <;> exact hc (by decide)
  simp only [not_or] at hmark
  simp [isFormPlain, Char.isAlphanum, halpha, hdigit, hmark] at h

/-- What holds of the plain characters of ASCII holds of all. -/
theorem of_isFormPlain {P : Char → Prop} (h : ∀ n < 128, isFormPlain (Char.ofNat n) = true → P (Char.ofNat n))
    {c : Char} (hc : isFormPlain c = true) : P c :=
  of_ascii (P := fun c => isFormPlain c = true → P c) h (ascii_of_isFormPlain hc) hc

theorem isFormPlain_of_isLabelChar {c : Char} (h : isLabelChar c = true) : isFormPlain c = true := by
  simp only [isLabelChar, Bool.or_eq_true, beq_iff_eq] at h
  rcases h with (h | h) | rfl
  · have halpha : c.isAlpha = true := Bool.or_eq_true_iff.2 (.inr h)
    simp [isFormPlain, Char.isAlphanum, halpha]
  · simp [isFormPlain, Char.isAlphanum, h]
  · rfl

/-- A label has no dots, and only lower case. -/
theorem ne_dot_and_toLower_of_isLabelChar {c : Char} (h : isLabelChar c = true) : c ≠ '.' ∧ c.toLower = c :=
  of_isFormPlain (P := fun c => isLabelChar c = true → c ≠ '.' ∧ c.toLower = c) (by decide)
    (isFormPlain_of_isLabelChar h) h

/-! ## Scheme and host -/

section Parts

variable {cs : List Char}

theorem stripMargins_eq_self (h : ∀ c ∈ cs, 32 < c.toNat) : stripMargins cs = cs := by
  have hstart (cs : List Char) (h : ∀ c ∈ cs, 32 < c.toNat) : cs.dropWhile isMargin = cs := by
    cases cs with
    | nil => rfl
    | cons c cs =>
      have hc : ¬ isMargin c = true := by
        have hvisible := h c List.mem_cons_self
        simp only [isMargin, decide_eq_true_eq]
        omega
      exact List.dropWhile_cons_of_neg hc
  have hreverse : ∀ c ∈ cs.reverse, 32 < c.toNat := fun c hc => h c (List.mem_reverse.1 hc)
  rw [stripMargins, hstart cs h, hstart cs.reverse hreverse, List.reverse_reverse]
  refine List.filter_eq_self.2 fun c hc => ?_
  have hvisible := h c hc
  simp only [ne_eq, Bool.and_eq_true, decide_eq_true_eq]
  refine ⟨⟨?_, ?_⟩, ?_⟩
  · rintro rfl
    exact absurd hvisible (by decide)
  · rintro rfl
    exact absurd hvisible (by decide)
  · rintro rfl
    exact absurd hvisible (by decide)

theorem splitScheme?_text (scheme : Scheme) (rest : List Char) :
    splitScheme? (scheme.text.toList ++ ':' :: '/' :: '/' :: rest) =
      some (scheme, rest.dropWhile fun c => c == '/' || c == '\\') := by
  cases scheme <;> rfl

theorem readPort?_nil (scheme : Scheme) : readPort? scheme [] = some scheme.port :=
  rfl

theorem splitPort_eq (h : ∀ c ∈ cs, c ≠ ':' ∧ c ≠ '[') : splitPort false cs = (cs, []) := by
  induction cs with
  | nil => rfl
  | cons c cs ih =>
    obtain ⟨⟨hcolon, hbracket⟩, hcs⟩ := List.forall_mem_cons.1 h
    have hopen : (c == '[') = false := beq_eq_false_iff_ne.2 hbracket
    simp [splitPort, hcolon, hopen, ih hcs]

theorem withoutUser_eq_self (h : ∀ c ∈ cs, c ≠ '@') : withoutUser cs = cs := by
  have hall : ∀ c ∈ cs.reverse, decide (c ≠ '@') = true := fun c hc => decide_eq_true (h c (List.mem_reverse.1 hc))
  rw [withoutUser, List.takeWhile_eq_self_iff.2 hall, List.reverse_reverse]

theorem percentDecode_eq_utf8 (h : ∀ c ∈ cs, c ≠ '%') : Text.percentDecode cs = Text.utf8 cs := by
  have hsame : Text.percentEncode (· ≠ '%') cs = cs := by
    refine (List.flatMap_congr fun c hc => ?_).trans (List.flatMap_singleton' cs)
    exact if_pos (decide_eq_true (h c hc))
  have hdecode : Text.percentDecode (Text.percentEncode (· ≠ '%') cs ++ []) = Text.utf8 cs ++ Text.percentDecode [] :=
    Text.percentDecode_percentEncode rfl cs []
  rw [hsame, List.append_nil] at hdecode
  rw [hdecode]
  exact List.append_nil _

theorem asciiForm_eq_self (h : ∀ c ∈ cs, c.toNat < 128 ∧ c.toLower = c) : Text.asciiForm cs = cs := by
  refine (List.flatMap_congr fun c hc => ?_).trans (List.flatMap_singleton' cs)
  obtain ⟨hascii, hlower⟩ := h c hc
  rw [Text.asciiFormChar, if_pos hascii, hlower]

end Parts

/-- What starts with a letter is no number of an address. -/
theorem endsInNumber_eq_false {parts : List (List Char)} {c : Char} {cs : List Char}
    (hlast : parts.getLast? = some (c :: cs)) (hc : c.isLower = true) : Host.endsInNumber parts = false := by
  have hplain : isFormPlain c = true := isFormPlain_of_isLabelChar (by simp [isLabelChar, hc])
  have hdigit : c.isDigit = false ∧ c ≠ '0' ∧ (Text.hexValue? c).filter (· < 10) = none :=
    of_isFormPlain (P := fun c => c.isLower = true → c.isDigit = false ∧ c ≠ '0' ∧
      (Text.hexValue? c).filter (· < 10) = none) (by decide) hplain hc
  have hnumber : Host.readNumber? (c :: cs) = none := by
    unfold Host.readNumber?
    split
    · next heq => cases heq
    · next heq => cases heq; exact absurd rfl hdigit.2.1
    · next heq => cases heq; exact absurd rfl hdigit.2.1
    · simp [Host.readDigits?, List.mapM_cons, hdigit.2.2]
  simp [Host.endsInNumber, hlast, hdigit.1, hnumber]

/-! ## Path -/

/-- A segment of a path that is sent as it is. -/
structure IsSegment (cs : List Char) : Prop where
  plain : ∀ c ∈ cs, isFormPlain c = true
  /-- It is no step along the path. -/
  ne_step : cs ≠ ['.'] ∧ cs ≠ ['.', '.']

instance (cs : List Char) : Decidable (IsSegment cs) :=
  decidable_of_iff (cs.all isFormPlain = true ∧ cs ≠ ['.'] ∧ cs ≠ ['.', '.'])
    ⟨fun ⟨plain, ne_step⟩ => ⟨List.all_eq_true.1 plain, ne_step⟩,
      fun ⟨plain, ne_step⟩ => ⟨List.all_eq_true.2 plain, ne_step⟩⟩

theorem eq_of_toLower_eq {c d : Char} (h : c.toLower = d) (hd : d = '.' ∨ d = '%') : c = d := by
  by_cases hc : c.toNat < 128
  · exact of_ascii (P := fun c => c.toLower = d → c = d) (by rcases hd with rfl | rfl <;> decide) hc h
  · rwa [Text.toLower_of_not_ascii hc] at h

/-- A step with an encoded dot has a character that is not plain. -/
theorem IsSegment.map_toLower_ne {cs ds : List Char} (h : IsSegment cs) (hd : '%' ∈ ds) :
    cs.map Char.toLower ≠ ds := by
  rintro rfl
  obtain ⟨c, hc, hlower⟩ := List.mem_map.1 hd
  rw [eq_of_toLower_eq hlower (.inr rfl)] at hc
  cases h.plain _ hc

theorem eq_replicate_of_map_toLower {cs : List Char} {n : Nat} (h : cs.map Char.toLower = List.replicate n '.') :
    cs = List.replicate n '.' := by
  refine List.eq_replicate_iff.2 ⟨?_, fun c hc => ?_⟩
  · rw [← List.length_map Char.toLower, h, List.length_replicate]
  · have hmem : c.toLower ∈ List.replicate n '.' := h ▸ List.mem_map_of_mem hc
    exact eq_of_toLower_eq (List.eq_of_mem_replicate hmem) (.inl rfl)

theorem IsSegment.isHere_eq_false {cs : List Char} (h : IsSegment cs) : isHere cs = false := by
  have hone : cs.map Char.toLower ≠ ['.'] := fun heq =>
    h.ne_step.1 (eq_replicate_of_map_toLower (n := 1) heq)
  have hencoded : cs.map Char.toLower ≠ ['%', '2', 'e'] := h.map_toLower_ne (by decide)
  simp [isHere, hone, hencoded]

theorem IsSegment.isBack_eq_false {cs : List Char} (h : IsSegment cs) : isBack cs = false := by
  have htwo : cs.map Char.toLower ≠ ['.', '.'] := fun heq =>
    h.ne_step.2 (eq_replicate_of_map_toLower (n := 2) heq)
  have hfirst : cs.map Char.toLower ≠ ['%', '2', 'e', '.'] := h.map_toLower_ne (by decide)
  have hsecond : cs.map Char.toLower ≠ ['.', '%', '2', 'e'] := h.map_toLower_ne (by decide)
  have hboth : cs.map Char.toLower ≠ ['%', '2', 'e', '%', '2', 'e'] := h.map_toLower_ne (by decide)
  simp [isBack, htwo, hfirst, hsecond, hboth]

theorem walk_segments {segments : List (List Char)} (path : List (List Char))
    (h : ∀ segment ∈ segments, IsSegment segment) : walk path segments = path.reverse ++ segments := by
  induction segments generalizing path with
  | nil => simp [walk]
  | cons segment segments ih =>
    obtain ⟨hsegment, hrest⟩ := List.forall_mem_cons.1 h
    simp [walk, hsegment.isBack_eq_false, hsegment.isHere_eq_false, ih (segment :: path) hrest]

theorem percentEncode_segment {cs : List Char} (h : IsSegment cs) : Text.percentEncode isPathPlain cs = cs := by
  refine (List.flatMap_congr fun c hc => ?_).trans (List.flatMap_singleton' cs)
  exact if_pos (of_isFormPlain (P := (isPathPlain · = true)) (by decide) (h.plain c hc))

/-- The segments of a path, each after a slash. -/
def slashed (segments : List (List Char)) : List Char :=
  segments.flatMap ('/' :: ·)

theorem slashed_cons (segment : List Char) (segments : List (List Char)) :
    slashed (segment :: segments) = '/' :: ['/'].intercalate (segment :: segments) := by
  induction segments generalizing segment with
  | nil => simp [slashed]
  | cons next segments ih =>
    rw [List.intercalate_cons_cons, slashed, List.flatMap_cons, ← slashed, ih next]
    simp

/-- What holds of a slash and of all plain characters holds of all characters of a path. -/
theorem forall_mem_slashed {P : Char → Prop} {segments : List (List Char)}
    (h : ∀ segment ∈ segments, IsSegment segment) (hslash : P '/')
    (hP : ∀ n < 128, isFormPlain (Char.ofNat n) = true → P (Char.ofNat n)) : ∀ c ∈ slashed segments, P c := by
  intro c hc
  obtain ⟨segment, hsegment, hc⟩ := List.mem_flatMap.1 hc
  rcases List.mem_cons.1 hc with rfl | hc
  · exact hslash
  · exact of_isFormPlain hP ((h segment hsegment).plain c hc)

/-- **A path of plain segments is sent as it is.** -/
theorem sentPath_slashed {segments : List (List Char)} (hne : segments ≠ [])
    (h : ∀ segment ∈ segments, IsSegment segment) : sentPath (slashed segments) = slashed segments := by
  have hslash {c : Char} (hc : isFormPlain c = true) : (!isSlash c) = true :=
    of_isFormPlain (P := fun c => (!isSlash c) = true) (by decide) hc
  have hparts : Text.parts (!isSlash ·) (['/'].intercalate segments) = segments :=
    Text.parts_intercalate rfl hne fun segment hsegment c hc => hslash ((h segment hsegment).plain c hc)
  obtain ⟨segment, rest, rfl⟩ := List.exists_cons_of_ne_nil hne
  have hfirst : isSlash '/' = true := rfl
  calc sentPath (slashed (segment :: rest))
      = (segment :: rest).flatMap fun segment => '/' :: Text.percentEncode isPathPlain segment := by
        rw [slashed_cons]
        simp only [sentPath, hfirst, if_true, hparts, walk_segments [] h, List.reverse_nil, List.nil_append]
    _ = slashed (segment :: rest) :=
        List.flatMap_congr fun segment hsegment => by rw [percentEncode_segment (h segment hsegment)]

/-! ## Sites -/

/-- A plain base address. -/
structure Site where
  scheme : Scheme
  /-- The labels of the host, between which stand dots. -/
  labels : List (List Char)
  all_isLabelChar : ∀ label ∈ labels, label.all isLabelChar = true
  /-- The last label starts with a letter, so that it is not taken for a number. -/
  last_label : (labels.getLast?.bind List.head?).any Char.isLower = true
  segments : List (List Char)
  isSegment_of_mem : ∀ segment ∈ segments, IsSegment segment
  /-- The address does not end with a slash. -/
  last_segment : segments.getLast? ≠ some []

namespace Site

variable (site : Site)

/-- The name of the host. -/
def host : List Char :=
  ['.'].intercalate site.labels

/-- The text of the address. -/
def text : String :=
  String.ofList (site.scheme.text.toList ++ ':' :: '/' :: '/' :: (site.host ++ slashed site.segments))

/-- The address that answers a question to the site. -/
def addressFor (question : Question) : Address where
  scheme := site.scheme
  host := .name (String.ofList site.host)
  port := site.scheme.port
  path := String.ofList (slashed (site.segments ++ [question.endpoint.toList]))
  query := String.ofList (formEncode question.key.toList ++ '=' :: formEncode question.value.toList)

theorem isLabelChar_of_mem {label : List Char} (hlabel : label ∈ site.labels) {c : Char} (hc : c ∈ label) :
    isLabelChar c = true :=
  List.all_eq_true.1 (site.all_isLabelChar label hlabel) c hc

theorem exists_last_label : ∃ c cs, site.labels.getLast? = some (c :: cs) ∧ c.isLower = true := by
  have hlast := site.last_label
  match hlabel : site.labels.getLast? with
  | none => simp [hlabel] at hlast
  | some [] => simp [hlabel] at hlast
  | some (c :: cs) =>
    rw [hlabel] at hlast
    exact ⟨c, cs, rfl, hlast⟩

theorem labels_ne_nil : site.labels ≠ [] := by
  obtain ⟨c, cs, hlast, -⟩ := site.exists_last_label
  intro hnil
  rw [hnil] at hlast
  cases hlast

theorem mem_host {c : Char} (h : c ∈ site.host) : c = '.' ∨ isLabelChar c = true :=
  (Text.mem_of_mem_intercalate h).imp_right fun ⟨_, hlabel, hc⟩ => site.isLabelChar_of_mem hlabel hc

theorem forall_mem_host {P : Char → Prop}
    (hP : ∀ n < 128, isFormPlain (Char.ofNat n) = true → P (Char.ofNat n)) : ∀ c ∈ site.host, P c := by
  intro c hc
  refine of_isFormPlain hP ?_
  rcases site.mem_host hc with rfl | hc
  · rfl
  · exact isFormPlain_of_isLabelChar hc

theorem parts_host : Text.parts (· ≠ '.') site.host = site.labels :=
  Text.parts_intercalate rfl site.labels_ne_nil fun _ hlabel _ hc =>
    decide_eq_true (ne_dot_and_toLower_of_isLabelChar (site.isLabelChar_of_mem hlabel hc)).1

theorem host_ne_nil : site.host ≠ [] := by
  intro hnil
  obtain ⟨c, cs, hlast, -⟩ := site.exists_last_label
  have hparts := site.parts_host
  rw [hnil] at hparts
  rw [← hparts] at hlast
  cases hlast

/-- **The host is read by its name.** -/
theorem ofText?_host : Host.ofText? site.host = some (.name (String.ofList site.host)) := by
  have hform : Host.ofForm? site.host = some (.name (String.ofList site.host)) := by
    obtain ⟨c, cs, hlast, hc⟩ := site.exists_last_label
    have hdot : site.labels.getLast? ≠ some [] := by
      rw [hlast]
      nofun
    simp only [Host.ofForm?, site.parts_host, if_neg hdot, if_neg site.host_ne_nil, endsInNumber_eq_false hlast hc,
      Bool.false_eq_true, if_false]
  have hlower : ∀ c ∈ site.host, c.toNat < 128 ∧ c.toLower = c := by
    intro c hc
    refine ⟨site.forall_mem_host (P := (·.toNat < 128)) (by decide) c hc, ?_⟩
    rcases site.mem_host hc with rfl | hc
    · rfl
    · exact (ne_dot_and_toLower_of_isLabelChar hc).2
  unfold Host.ofText?
  split
  · next heq =>
    have hbracket : ∀ c ∈ site.host, c ≠ '[' := site.forall_mem_host (by decide)
    exact absurd rfl (hbracket '[' (heq ▸ List.mem_cons_self))
  · rw [percentDecode_eq_utf8 (site.forall_mem_host (by decide)), Text.ofUtf8?_utf8, Option.bind_some,
      asciiForm_eq_self hlower, hform]

section Slashed

variable {segments : List (List Char)}

theorem visible_of_mem (h : ∀ segment ∈ segments, IsSegment segment) :
    ∀ c ∈ site.scheme.text.toList ++ ':' :: '/' :: '/' :: (site.host ++ slashed segments), 32 < c.toNat := by
  have hscheme : ∀ c ∈ site.scheme.text.toList, 32 < c.toNat := by
    cases site.scheme <;> simp [Scheme.text]
  have hhost : ∀ c ∈ site.host, 32 < c.toNat := site.forall_mem_host (by decide)
  have hpath : ∀ c ∈ slashed segments, 32 < c.toNat := forall_mem_slashed h (by decide) (by decide)
  simp only [List.forall_mem_append, List.forall_mem_cons]
  exact ⟨hscheme, by decide, by decide, by decide, hhost, hpath⟩

theorem dropWhile_host_append (rest : List Char) :
    (site.host ++ rest).dropWhile (fun c => c == '/' || c == '\\') = site.host ++ rest := by
  obtain ⟨c, cs, hcons⟩ := List.exists_cons_of_ne_nil site.host_ne_nil
  have hc : (c == '/' || c == '\\') = false :=
    site.forall_mem_host (P := fun c => (c == '/' || c == '\\') = false) (by decide) c (hcons ▸ List.mem_cons_self)
  simp [hcons, hc]

/-- The host ends where the path begins. -/
theorem endsHost_split (hne : segments ≠ []) :
    (site.host ++ slashed segments).takeWhile (!endsHost ·) = site.host ∧
      (site.host ++ slashed segments).dropWhile (!endsHost ·) = slashed segments := by
  obtain ⟨segment, rest, rfl⟩ := List.exists_cons_of_ne_nil hne
  have hinside : ∀ c ∈ site.host, (!endsHost c) = true := site.forall_mem_host (by decide)
  have hends : endsHost '/' = true := rfl
  rw [List.takeWhile_append_of_pos hinside, List.dropWhile_append_of_pos hinside, slashed_cons]
  simp [hends]

/-- **A plain address is read as it is written.** -/
theorem ofText?_slashed (hne : segments ≠ []) (h : ∀ segment ∈ segments, IsSegment segment) :
    Address.ofText? (String.ofList (site.scheme.text.toList ++ ':' :: '/' :: '/' :: (site.host ++ slashed segments))) =
      some ⟨site.scheme, .name (String.ofList site.host), site.scheme.port, String.ofList (slashed segments), ""⟩ := by
  obtain ⟨hname, hresource⟩ := site.endsHost_split hne
  have hfragment : (slashed segments).takeWhile (· ≠ '#') = slashed segments :=
    List.takeWhile_eq_self_iff.2 (forall_mem_slashed h (by decide) (by decide))
  have hpath : (slashed segments).takeWhile (· ≠ '?') = slashed segments :=
    List.takeWhile_eq_self_iff.2 (forall_mem_slashed h (by decide) (by decide))
  have hquery : (slashed segments).dropWhile (· ≠ '?') = [] :=
    List.dropWhile_eq_nil_iff.2 (forall_mem_slashed h (by decide) (by decide))
  have huser : withoutUser site.host = site.host := withoutUser_eq_self (site.forall_mem_host (by decide))
  have hport : splitPort false site.host = (site.host, []) := splitPort_eq (site.forall_mem_host (by decide))
  simp only [Address.ofText?, String.toList_ofList, stripMargins_eq_self (site.visible_of_mem h), splitScheme?_text,
    Option.bind_eq_bind, Option.bind_some, Option.pure_def, dropWhile_host_append, hname, hresource, hfragment, hpath,
    hquery, huser, hport, site.ofText?_host, readPort?_nil, sentPath_slashed hne h]
  rfl

end Slashed

/-! ## Questions to a site -/

/-- The text of a site does not end with a slash. -/
theorem baseUrl_new (attempts : Nat) : (Client.new site.text attempts).baseUrl = site.text := by
  have hlast : ∃ front back, site.text.toList = front ++ back ∧ back ≠ [] ∧ ∀ c ∈ back, c ≠ '/' := by
    rcases List.eq_nil_or_concat' site.segments with hnil | ⟨front, last, hsegments⟩
    · refine ⟨site.scheme.text.toList ++ [':', '/', '/'], site.host, ?_, site.host_ne_nil,
        site.forall_mem_host (by decide)⟩
      simp [text, hnil, slashed]
    · have hlast := site.last_segment
      rw [hsegments, List.getLast?_concat] at hlast
      have hsegment : IsSegment last := site.isSegment_of_mem last (by simp [hsegments])
      refine ⟨site.scheme.text.toList ++ ':' :: '/' :: '/' :: (site.host ++ slashed front ++ ['/']), last, ?_,
        fun h => hlast (congrArg some h), fun c hc => ?_⟩
      · simp [text, hsegments, slashed]
      · exact of_isFormPlain (P := (· ≠ '/')) (by decide) (hsegment.plain c hc)
  obtain ⟨front, back, htext, hne, hback⟩ := hlast
  have hstay : (site.text.toList.reverse.dropWhile (· == '/')) = site.text.toList.reverse := by
    obtain ⟨c, cs, hcons⟩ := List.exists_cons_of_ne_nil (List.reverse_ne_nil_iff.2 hne)
    have hc : c ≠ '/' := hback c (List.mem_reverse.1 (hcons ▸ List.mem_cons_self))
    simp [htext, hcons, hc]
  rw [Client.new, hstay, List.reverse_reverse, String.ofList_toList]

theorem length_text_addressFor (question : Question) :
    (site.addressFor question).text.length =
      site.text.length + question.endpoint.length + (formEncode question.key.toList).length +
        (formEncode question.value.toList).length + 3 := by
  have hquery : (site.addressFor question).query ≠ "" := by
    simp [addressFor]
  have hport : (site.addressFor question).port = (site.addressFor question).scheme.port := rfl
  rw [Address.text, if_pos hport, Address.target, if_neg hquery]
  simp [addressFor, Host.text, text, slashed, ← String.length_toList]
  omega

/-- **A question to a site whose host is known is sent there**, unless the address would be too long. -/
theorem address?_new (attempts : Nat) {question : Question} {network : Network}
    (hendpoint : IsSegment question.endpoint.toList) (hknown : network.resolves (String.ofList site.host) = true)
    (hlength : site.text.length + question.endpoint.length + (formEncode question.key.toList).length +
      (formEncode question.value.toList).length + 3 ≤ Address.maxLength) :
    (Client.new site.text attempts).address? question network = some (site.addressFor question) := by
  have hurl : (Client.new site.text attempts).url question =
      String.ofList (site.scheme.text.toList ++ ':' :: '/' :: '/' ::
        (site.host ++ slashed (site.segments ++ [question.endpoint.toList]))) := by
    rw [Client.url, baseUrl_new]
    refine String.toList_inj.1 ?_
    simp [text, slashed]
  have hsegments : ∀ segment ∈ site.segments ++ [question.endpoint.toList], IsSegment segment := by
    simp only [List.forall_mem_append, List.forall_mem_singleton]
    exact ⟨site.isSegment_of_mem, hendpoint⟩
  have hfield : Address.withField question.key question.value ⟨site.scheme, .name (String.ofList site.host),
      site.scheme.port, String.ofList (slashed (site.segments ++ [question.endpoint.toList])), ""⟩ =
        site.addressFor question := rfl
  have hsend : (site.addressFor question).isSendable = true :=
    decide_eq_true ((site.length_text_addressFor question).trans_le hlength)
  have hreach : network.reaches (site.addressFor question).host = true := hknown
  rw [Client.address?, hurl, ofText?_slashed _ (by simp) hsegments, Option.map_some, hfield]
  simp [hsend, hreach]

end Site

end RecipeSearch.Catalogue
