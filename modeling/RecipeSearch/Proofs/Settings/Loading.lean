import Mathlib.Data.List.Basic
import RecipeSearch.Proofs.FirstFault
import RecipeSearch.Settings.Basic

/-!
# What settings are loaded, and which fault is reported

The faults that there can be in the environment and the arguments stand in an order (`IsFault`): first the variables
that hold numbers, then the arguments as they are passed by one after the other (`place`), where the value of a `--bind`
is not looked at as an argument itself. **Loading fails with the first of them** (`load_faithful`), and if there is none
it listens where the last `--bind` says, or else the variable for the port (`BindsTo`). A variable that is blank is as
good as not set, and one variable decides no more than its own setting (`AgreesBut`).
-/

namespace RecipeSearch.Settings

/-! ## Numbers -/

/-- The text spells `n`, which is below the bound: in decimal digits, with a plus sign before them if one likes. -/
def IsNumber (bound n : Nat) (cs : List Char) : Prop :=
  ∃ digits, (cs = digits ∨ cs = '+' :: digits) ∧ digits ≠ [] ∧ (∀ c ∈ digits, c.isDigit = true) ∧
    Nat.ofDigitChars 10 digits 0 = n ∧ n < bound

section Number

variable {bound n k : Nat} {cs : List Char}

theorem le_ofDigitChars (n : Nat) (cs : List Char) : n ≤ Nat.ofDigitChars 10 cs n := by
  induction cs generalizing n with
  | nil => exact Nat.le_refl n
  | cons c cs ih =>
    rw [Nat.ofDigitChars_cons]
    have := ih (10 * n + (c.toNat - '0'.toNat))
    omega

/-- A number below the bound is below it after each of its digits. -/
theorem continueNumber_eq_ok_iff (hn : n < bound) :
    continueNumber bound n cs = .ok k ↔
      (∀ c ∈ cs, c.isDigit = true) ∧ Nat.ofDigitChars 10 cs n = k ∧ k < bound := by
  induction cs generalizing n with
  | nil =>
    rw [continueNumber, Except.ok.injEq]
    refine ⟨?_, fun h => h.2.1⟩
    rintro rfl
    exact ⟨nofun, rfl, hn⟩
  | cons c cs ih =>
    have hnext : n * 10 + (c.toNat - 48) = 10 * n + (c.toNat - '0'.toNat) := by
      rw [Nat.mul_comm]
      rfl
    have hle := le_ofDigitChars (10 * n + (c.toNat - '0'.toNat)) cs
    rw [continueNumber, List.forall_mem_cons, Nat.ofDigitChars_cons]
    dsimp only
    rw [hnext]
    cases hc : c.isDigit with
    | false => simp
    | true =>
      rw [Bool.not_true, if_neg Bool.false_ne_true]
      split
      · next hlt => simp only [ih hlt, true_and]
      · next hge =>
        refine ⟨nofun, ?_⟩
        rintro ⟨-, rfl, hlt⟩
        omega

/-- **Exactly the numbers below the bound are read.** -/
theorem readNumber_eq_ok_iff (hbound : 0 < bound) : readNumber bound cs = .ok n ↔ IsNumber bound n cs := by
  have hdigits (ds : List Char) :
      (if ds.isEmpty then .error .invalidDigit else continueNumber bound 0 ds) = .ok n ↔
        ds ≠ [] ∧ (∀ c ∈ ds, c.isDigit = true) ∧ Nat.ofDigitChars 10 ds 0 = n ∧ n < bound := by
    cases ds with
    | nil => simp
    | cons d ds => exact (continueNumber_eq_ok_iff hbound).trans (and_iff_right (List.cons_ne_nil d ds)).symm
  by_cases hplus : ∃ ds, cs = '+' :: ds
  · obtain ⟨ds, rfl⟩ := hplus
    rw [readNumber, hdigits]
    refine ⟨fun h => ⟨ds, .inr rfl, h⟩, ?_⟩
    rintro ⟨digits, rfl | heq, h⟩
    · exact absurd (h.2.1 '+' List.mem_cons_self) (by decide)
    · cases heq
      exact h
  · have hne (ds : List Char) : cs ≠ '+' :: ds := fun heq => hplus ⟨ds, heq⟩
    rw [readNumber, hdigits]
    · refine ⟨fun h => ⟨cs, .inl rfl, h⟩, ?_⟩
      rintro ⟨digits, rfl | heq, h⟩
      · exact h
      · exact absurd heq (hne digits)
    · exact hne

end Number

/-! ## Variables -/

/-- The variables that hold numbers, in the order in which they are read, with the bounds of the numbers. -/
def numbers : List (String × Nat) :=
  [("PORT", Nat.pow 2 16), ("CATALOG_TIMEOUT_MS", Nat.pow 2 64), ("CATALOG_RETRY_ATTEMPTS", Nat.pow 2 64),
    ("SEARCH_MAX_RESULTS", Nat.pow 2 64), ("SEARCH_TERM_CONCURRENCY", Nat.pow 2 64)]

/-- The variable is set to a number. -/
def IsSetTo (env : Environment) (key : String) (bound n : Nat) : Prop :=
  ∃ value, env key = some value ∧ Text.isBlankString value = false ∧ IsNumber bound n (Text.trim value.toList)

/-- The variable is not set, or blank. -/
def IsUnset (env : Environment) (key : String) : Prop :=
  ∀ value, env key = some value → Text.isBlankString value = true

/-- The variable is set to a text that is neither blank nor a number, with what is wrong with it. -/
def IsBad (env : Environment) (key : String) (bound : Nat) (value : String) (fault : NumberFault) : Prop :=
  env key = some value ∧ Text.isBlankString value = false ∧ (∀ n, ¬ IsNumber bound n (Text.trim value.toList)) ∧
    readNumber bound (Text.trim value.toList) = .error fault

/-- A variable is not set or blank, or a number, or bad. -/
theorem number?_cases (env : Environment) (key : String) {bound : Nat} (hbound : 0 < bound) :
    (IsUnset env key ∧ number? env bound key = .ok none) ∨
      (∃ n, IsSetTo env key bound n ∧ number? env bound key = .ok (some n)) ∨
      ∃ value fault, IsBad env key bound value fault ∧ number? env bound key = .error (.badNumber key value fault) := by
  rw [number?]
  cases hvalue : env key with
  | none =>
    refine .inl ⟨fun value h => ?_, rfl⟩
    rw [hvalue] at h
    cases h
  | some value =>
    dsimp only
    cases hblank : Text.isBlankString value with
    | true =>
      refine .inl ⟨fun value' h => ?_, rfl⟩
      rw [hvalue] at h
      cases h
      exact hblank
    | false =>
      rw [if_neg Bool.false_ne_true]
      cases hread : readNumber bound (Text.trim value.toList) with
      | ok n => exact .inr (.inl ⟨n, ⟨value, hvalue, hblank, (readNumber_eq_ok_iff hbound).1 hread⟩, rfl⟩)
      | error fault =>
        have hnone (n : Nat) : ¬ IsNumber bound n (Text.trim value.toList) := by
          rw [← readNumber_eq_ok_iff hbound, hread]
          nofun
        exact .inr (.inr ⟨value, fault, ⟨hvalue, hblank, hnone, hread⟩, rfl⟩)

/-! ## Arguments -/

/-- The argument that is looked at after some steps, the first one being behind the name of the program: each time the
next one, or the one after it behind a `--bind`. -/
def place (args : List String) : Nat → Nat
  | 0 => 1
  | k + 1 => if args[place args k]? = some "--bind" then place args k + 2 else place args k + 1

/-! ## Faults -/

/-- The fault of the argument that is looked at after `k` steps. -/
inductive IsBadBind (args : List String) (k : Nat) : SettingsError → Prop
  | missing : args[place args k]? = some "--bind" → args[place args k + 1]? = none → IsBadBind args k .missingAddress
  | unreadable {value : String} : args[place args k]? = some "--bind" → args[place args k + 1]? = some value →
      SocketAddress.ofText? value.toList = none → IsBadBind args k (.badAddress value)

/-- The faults in their order: those of the variables, and then those of the arguments. -/
inductive IsFault (args : List String) (env : Environment) : Nat → SettingsError → Prop
  | number {k bound : Nat} {key value : String} {fault : NumberFault} :
      numbers[k]? = some (key, bound) → IsBad env key bound value fault →
      IsFault args env k (.badNumber key value fault)
  | bind {k : Nat} {e : SettingsError} : IsBadBind args k e → IsFault args env (numbers.length + k) e

/-- Where the service listens: at the value of the last `--bind`, or else at the port that is set, or else at the
standard one. -/
inductive BindsTo (args : List String) (env : Environment) : SocketAddress → Prop
  | argument {k : Nat} {value : String} {address : SocketAddress} :
      args[place args k]? = some "--bind" → args[place args k + 1]? = some value →
      SocketAddress.ofText? value.toList = some address →
      (∀ j, k < j → args[place args j]? ≠ some "--bind") → BindsTo args env address
  | port {n : Nat} :
      (∀ k, args[place args k]? ≠ some "--bind") → IsSetTo env "PORT" (Nat.pow 2 16) n →
      BindsTo args env (.v4 [0, 0, 0, 0] n)
  | standard :
      (∀ k, args[place args k]? ≠ some "--bind") → IsUnset env "PORT" → BindsTo args env (.v4 [0, 0, 0, 0] 8080)

/-- The settings agree but for the one that a variable decides. -/
structure AgreesBut (key : String) (s s' : Settings) : Prop where
  bind : key ≠ "PORT" → s.bind = s'.bind
  allowedOrigins : key ≠ "ALLOWED_ORIGINS" → s.allowedOrigins = s'.allowedOrigins
  baseUrl : key ≠ "MEALDB_BASE_URL" → s.catalogue.baseUrl = s'.catalogue.baseUrl
  timeoutMs : key ≠ "CATALOG_TIMEOUT_MS" → s.catalogue.timeoutMs = s'.catalogue.timeoutMs
  retryAttempts : key ≠ "CATALOG_RETRY_ATTEMPTS" → s.catalogue.retryAttempts = s'.catalogue.retryAttempts
  maxResults : key ≠ "SEARCH_MAX_RESULTS" → s.limits.maxResults = s'.limits.maxResults
  termConcurrency : key ≠ "SEARCH_TERM_CONCURRENCY" → s.limits.termConcurrency = s'.limits.termConcurrency

/-! ## Looking at the arguments -/

section Arguments

variable {args : List String} {env : Environment} {k : Nat}

theorem place_succ (args : List String) (k : Nat) :
    place args (k + 1) = if args[place args k]? = some "--bind" then place args k + 2 else place args k + 1 := rfl

theorem place_mono (args : List String) {k j : Nat} (h : k ≤ j) : place args k ≤ place args j := by
  induction h with
  | refl => exact Nat.le_refl _
  | step _ ih =>
    rw [Nat.succ_eq_add_one, place_succ]
    split <;> omega

/-- An argument, and what is left after it. -/
theorem of_drop_eq_cons {i : Nat} {arg : String} {rest : List String} (h : args.drop i = arg :: rest) :
    args[i]? = some arg ∧ args.drop (i + 1) = rest := by
  constructor
  · rw [← Nat.add_zero i, ← List.getElem?_drop, h]
    rfl
  · rw [← List.drop_drop, h]
    rfl

/-- No argument is left where none is left now. -/
theorem getElem?_place_of_drop_eq_nil (h : args.drop (place args k) = []) {j : Nat} (hj : k ≤ j) :
    args[place args j]? = none :=
  List.getElem?_eq_none (Nat.le_trans (List.drop_eq_nil_iff.1 h) (place_mono args hj))

theorem drop_place_succ {arg : String} {rest : List String} (h : args.drop (place args k) = arg :: rest)
    (hne : arg ≠ "--bind") : args.drop (place args (k + 1)) = rest := by
  obtain ⟨harg, hdrop⟩ := of_drop_eq_cons h
  rw [place_succ, harg, if_neg (by simpa using hne), hdrop]

theorem drop_place_succ_bind {value : String} {rest : List String}
    (h : args.drop (place args k) = "--bind" :: value :: rest) : args.drop (place args (k + 1)) = rest := by
  obtain ⟨harg, hdrop⟩ := of_drop_eq_cons h
  rw [place_succ, harg, if_pos rfl]
  exact (of_drop_eq_cons hdrop).2

theorem getElem?_numbers_add (k : Nat) : numbers[numbers.length + k]? = none :=
  List.getElem?_eq_none (Nat.le_add_right _ k)

theorem isBadBind_of_isFault {e : SettingsError} (h : IsFault args env (numbers.length + k) e) :
    IsBadBind args k e := by
  generalize hplace : numbers.length + k = j at h
  cases h with
  | number hj =>
    rw [← hplace, getElem?_numbers_add] at hj
    cases hj
  | bind h =>
    have heq := Nat.add_left_cancel hplace
    rwa [heq]

theorem isBad_of_isFault {key : String} {bound : Nat} {e : SettingsError} (hk : numbers[k]? = some (key, bound))
    (h : IsFault args env k e) : ∃ value fault, IsBad env key bound value fault ∧ e = .badNumber key value fault := by
  cases h with
  | number hk' hbad =>
    rw [hk] at hk'
    cases hk'
    exact ⟨_, _, hbad, rfl⟩
  | bind =>
    rw [getElem?_numbers_add] at hk
    cases hk

/-- No place has two faults. -/
theorem isFault_unique {e e' : SettingsError} (h : IsFault args env k e) (h' : IsFault args env k e') : e = e' := by
  cases h with
  | number hk hbad =>
    obtain ⟨value, fault, hbad', rfl⟩ := isBad_of_isFault hk h'
    cases hbad.1.symm.trans hbad'.1
    cases hbad.2.2.2.symm.trans hbad'.2.2.2
    rfl
  | bind h =>
    have h' := isBadBind_of_isFault h'
    cases h with
    | missing hbind hnone =>
      cases h' with
      | missing => rfl
      | unreadable _ hsome => cases hnone.symm.trans hsome
    | unreadable hbind hsome =>
      cases h' with
      | missing _ hnone => cases hnone.symm.trans hsome
      | unreadable _ hsome' =>
        cases hsome.symm.trans hsome'
        rfl

end Arguments

/-! ## Loading reports the first fault -/

section Loading

variable {args : List String} {env : Environment} {k : Nat}

/-- Reading a number is a step of loading. -/
theorem reports_number {α : Type} {key : String} {bound : Nat} {f : Option Nat → Except SettingsError α}
    (hk : numbers[k]? = some (key, bound)) (hf : ∀ n?, Reports (IsFault args env) (k + 1) (f n?)) :
    Reports (IsFault args env) k (number? env bound key >>= f) := by
  have hbound : 0 < bound := by
    have hall : ∀ m ∈ numbers, 0 < m.2 := by decide
    exact hall _ (List.mem_of_getElem? hk)
  rcases number?_cases env key hbound with ⟨hunset, hread⟩ | ⟨n, hset, hread⟩ | ⟨value, fault, hbad, hread⟩
  all_goals rw [hread]
  · refine .later (fun e he => ?_) (hf none)
    obtain ⟨value, fault, hbad, rfl⟩ := isBad_of_isFault hk he
    have hblank := hunset value hbad.1
    rw [hbad.2.1] at hblank
    cases hblank
  · refine .later (fun e he => ?_) (hf (some n))
    obtain ⟨value, fault, hbad, rfl⟩ := isBad_of_isFault hk he
    obtain ⟨value', hvalue, -, hnumber⟩ := hset
    cases hbad.1.symm.trans hvalue
    exact hbad.2.2.1 n hnumber
  · exact .now (.number hk hbad)

theorem reports_bindOf (address : SocketAddress) {rest : List String} (hrest : args.drop (place args k) = rest) :
    Reports (IsFault args env) (numbers.length + k) (bindOf address rest) := by
  -- the recursion leaves the arguments behind one place after the other
  fun_induction bindOf address rest generalizing k with
  | case1 address =>
    intro j hj e he
    obtain ⟨d, rfl⟩ := Nat.exists_eq_add_of_le hj
    rw [Nat.add_assoc] at he
    have hnone := getElem?_place_of_drop_eq_nil hrest (Nat.le_add_right k d)
    cases isBadBind_of_isFault he with
    | missing hbind => cases hnone.symm.trans hbind
    | unreadable hbind => cases hnone.symm.trans hbind
  | case2 address =>
    obtain ⟨hbind, hdrop⟩ := of_drop_eq_cons hrest
    exact .now (.bind (.missing hbind (List.getElem?_eq_none (List.drop_eq_nil_iff.1 hdrop))))
  | case3 address value rest address' haddress ih =>
    obtain ⟨-, hdrop⟩ := of_drop_eq_cons hrest
    refine .later (fun e he => ?_) (ih (drop_place_succ_bind hrest))
    have hvalue := (of_drop_eq_cons hdrop).1
    cases isBadBind_of_isFault he with
    | missing _ hnone => cases hnone.symm.trans hvalue
    | unreadable _ hvalue' hnone =>
      cases hvalue.symm.trans hvalue'
      cases haddress.symm.trans hnone
  | case4 address value rest haddress =>
    obtain ⟨hbind, hdrop⟩ := of_drop_eq_cons hrest
    exact .now (.bind (.unreadable hbind (of_drop_eq_cons hdrop).1 haddress))
  | case5 address arg rest hne ih =>
    refine .later (fun e he => ?_) (ih (drop_place_succ hrest hne))
    have harg := (of_drop_eq_cons hrest).1
    cases isBadBind_of_isFault he with
    | missing hbind => exact hne (Option.some.inj (harg.symm.trans hbind))
    | unreadable hbind => exact hne (Option.some.inj (harg.symm.trans hbind))

/-- **Loading reports the first fault.** -/
theorem reports_load (args : List String) (env : Environment) :
    Reports (IsFault args env) 0 (load args.tail env) := by
  have hrest : args.drop (place args 0) = args.tail := List.drop_one
  refine reports_number rfl fun port => reports_number rfl fun timeout => reports_number rfl fun attempts =>
    reports_number rfl fun maxResults => reports_number rfl fun concurrency => ?_
  exact Reports.bind_ok (reports_bindOf _ hrest) _

end Loading

/-! ## What is loaded -/

section Loaded

variable {args : List String} {env : Environment} {k : Nat}

/-- The address is that of the last `--bind` that is still to come, or else the one that there is before. -/
theorem bindOf_eq_ok (address : SocketAddress) {rest : List String} (hrest : args.drop (place args k) = rest)
    {bound : SocketAddress} (h : bindOf address rest = .ok bound) :
    (∃ j value, k ≤ j ∧ args[place args j]? = some "--bind" ∧ args[place args j + 1]? = some value ∧
        SocketAddress.ofText? value.toList = some bound ∧ ∀ i, j < i → args[place args i]? ≠ some "--bind") ∨
      (∀ j, k ≤ j → args[place args j]? ≠ some "--bind") ∧ bound = address := by
  fun_induction bindOf address rest generalizing k with
  | case1 address =>
    cases h
    refine .inr ⟨fun j hj hbind => ?_, rfl⟩
    cases (getElem?_place_of_drop_eq_nil hrest hj).symm.trans hbind
  | case2 => cases h
  | case3 address value rest address' haddress ih =>
    obtain ⟨hbind, hdrop⟩ := of_drop_eq_cons hrest
    rcases ih (drop_place_succ_bind hrest) h with ⟨j, value', hj, hlast⟩ | ⟨hnone, rfl⟩
    · exact .inl ⟨j, value', by omega, hlast⟩
    · exact .inl ⟨k, value, Nat.le_refl k, hbind, (of_drop_eq_cons hdrop).1, haddress, hnone⟩
  | case4 => cases h
  | case5 address arg rest hne ih =>
    have harg := (of_drop_eq_cons hrest).1
    rcases ih (drop_place_succ hrest hne) h with ⟨j, value, hj, hlast⟩ | ⟨hnone, rfl⟩
    · exact .inl ⟨j, value, by omega, hlast⟩
    · refine .inr ⟨fun j hj hbind => ?_, rfl⟩
      rcases Nat.eq_or_lt_of_le hj with rfl | hlt
      · exact hne (Option.some.inj (harg.symm.trans hbind))
      · exact hnone j hlt hbind

/-- The address with the port that is set. -/
def portAddress (port : Option Nat) : SocketAddress :=
  match port with
  | some port => standard.bind.withPort port
  | none => standard.bind

/-- The settings are made of what is read from the variables and the arguments. -/
structure MadeOf (args : List String) (env : Environment) (s : Settings)
    (port timeout attempts maxResults concurrency : Option Nat) : Prop where
  readPort : number? env portBound "PORT" = .ok port
  readTimeout : number? env numberBound "CATALOG_TIMEOUT_MS" = .ok timeout
  readAttempts : number? env numberBound "CATALOG_RETRY_ATTEMPTS" = .ok attempts
  readMaxResults : number? env numberBound "SEARCH_MAX_RESULTS" = .ok maxResults
  readConcurrency : number? env numberBound "SEARCH_TERM_CONCURRENCY" = .ok concurrency
  bind : bindOf (portAddress port) args = .ok s.bind
  allowedOrigins : s.allowedOrigins = ((env "ALLOWED_ORIGINS").map splitOrigins).getD standard.allowedOrigins
  baseUrl : s.catalogue.baseUrl =
    (((env "MEALDB_BASE_URL").filter fun value => !Text.isBlankString value).map Text.trimmed).getD
      standard.catalogue.baseUrl
  timeoutMs : s.catalogue.timeoutMs = timeout.getD standard.catalogue.timeoutMs
  retryAttempts : s.catalogue.retryAttempts = attempts.getD standard.catalogue.retryAttempts
  maxResults : s.limits.maxResults = maxResults.getD standard.limits.maxResults
  termConcurrency : s.limits.termConcurrency = max 1 (concurrency.getD standard.limits.termConcurrency)

theorem exists_madeOf {s : Settings} (h : load args env = .ok s) :
    ∃ port timeout attempts maxResults concurrency,
      MadeOf args env s port timeout attempts maxResults concurrency := by
  obtain ⟨port, hport, h⟩ := eq_ok_of_bind h
  obtain ⟨timeout, htimeout, h⟩ := eq_ok_of_bind h
  obtain ⟨attempts, hattempts, h⟩ := eq_ok_of_bind h
  obtain ⟨maxResults, hmaxResults, h⟩ := eq_ok_of_bind h
  obtain ⟨concurrency, hconcurrency, h⟩ := eq_ok_of_bind h
  obtain ⟨bind, hbind, h⟩ := eq_ok_of_bind h
  cases h
  exact ⟨port, timeout, attempts, maxResults, concurrency, hport, htimeout, hattempts, hmaxResults, hconcurrency, hbind,
    rfl, rfl, rfl, rfl, rfl, rfl⟩

/-- Where the service listens once the settings are loaded. -/
theorem bindsTo_of_load {s : Settings} (h : load args.tail env = .ok s) : BindsTo args env s.bind := by
  obtain ⟨port, _, _, _, _, hmade⟩ := exists_madeOf h
  have hrest : args.drop (place args 0) = args.tail := List.drop_one
  rcases bindOf_eq_ok _ hrest hmade.bind with ⟨j, value, -, hbind, hvalue, haddress, hlast⟩ | ⟨hnone, hport⟩
  · exact .argument hbind hvalue haddress hlast
  · have hnone (k : Nat) : args[place args k]? ≠ some "--bind" := hnone k (Nat.zero_le k)
    have hbound : 0 < portBound := by decide
    rw [hport]
    rcases number?_cases env "PORT" hbound with ⟨hunset, hread⟩ | ⟨n, hset, hread⟩ | ⟨_, _, _, hread⟩
    · cases hmade.readPort.symm.trans hread
      exact .standard hnone hunset
    · cases hmade.readPort.symm.trans hread
      exact .port hnone hset
    · cases hmade.readPort.symm.trans hread

theorem termConcurrency_pos_of_load {s : Settings} (h : load args env = .ok s) : 1 ≤ s.limits.termConcurrency := by
  obtain ⟨_, _, _, _, concurrency, hmade⟩ := exists_madeOf h
  rw [hmade.termConcurrency]
  exact Nat.le_max_left _ _

end Loaded

/-! ## Changing a variable -/

section Update

variable {args : List String} {env : Environment} {key : String} {value? : Option String}

theorem number?_update_of_ne {other : String} (hne : key ≠ other) (bound : Nat) :
    number? (Function.update env key value?) bound other = number? env bound other := by
  rw [number?, number?, Function.update_of_ne hne.symm]

/-- A number that is blank is as good as not set. -/
theorem number?_update_none {value : String} (hvalue : env key = some value)
    (hblank : Text.isBlankString value = true) : number? (Function.update env key none) = number? env := by
  funext bound other
  by_cases hne : key = other
  · subst hne
    rw [number?, number?, Function.update_self, hvalue]
    exact (if_pos hblank).symm
  · exact number?_update_of_ne hne bound

theorem load_update_none {value : String} (hnumber : key ≠ "ALLOWED_ORIGINS" ∧ key ≠ "MEALDB_BASE_URL")
    (hvalue : env key = some value) (hblank : Text.isBlankString value = true) :
    load args (Function.update env key none) = load args env := by
  rw [load, load, number?_update_none hvalue hblank, Function.update_of_ne hnumber.1.symm,
    Function.update_of_ne hnumber.2.symm]

theorem eq_of_number?_update {other : String} (hne : key ≠ other) {bound : Nat} {n? n?' : Option Nat}
    (h : number? env bound other = .ok n?) (h' : number? (Function.update env key value?) bound other = .ok n?') :
    n? = n?' := by
  rw [number?_update_of_ne hne, h] at h'
  exact Except.ok.inj h'

/-- A variable decides no more than its own setting. -/
theorem agreesBut_of_load {s s' : Settings} (h : load args env = .ok s)
    (h' : load args (Function.update env key value?) = .ok s') : AgreesBut key s s' := by
  obtain ⟨port, timeout, attempts, maxResults, concurrency, hmade⟩ := exists_madeOf h
  obtain ⟨port', timeout', attempts', maxResults', concurrency', hmade'⟩ := exists_madeOf h'
  constructor
  · intro hne
    have hbind := hmade.bind
    rw [eq_of_number?_update hne hmade.readPort hmade'.readPort, hmade'.bind] at hbind
    exact (Except.ok.inj hbind).symm
  · intro hne
    rw [hmade.allowedOrigins, hmade'.allowedOrigins, Function.update_of_ne hne.symm]
  · intro hne
    rw [hmade.baseUrl, hmade'.baseUrl, Function.update_of_ne hne.symm]
  · intro hne
    rw [hmade.timeoutMs, hmade'.timeoutMs, eq_of_number?_update hne hmade.readTimeout hmade'.readTimeout]
  · intro hne
    rw [hmade.retryAttempts, hmade'.retryAttempts, eq_of_number?_update hne hmade.readAttempts hmade'.readAttempts]
  · intro hne
    rw [hmade.maxResults, hmade'.maxResults, eq_of_number?_update hne hmade.readMaxResults hmade'.readMaxResults]
  · intro hne
    rw [hmade.termConcurrency, hmade'.termConcurrency,
      eq_of_number?_update hne hmade.readConcurrency hmade'.readConcurrency]

end Update

/-- **Loading fails if there is a fault, and with the first one.** Otherwise the service listens where the last `--bind`
says, or else at the port that is set, and looks up at least one term at a time; and each variable decides its own
setting alone, a number that is blank being as good as not set. -/
theorem load_faithful (args : List String) (env : Environment) :
    ((∃ e, load args.tail env = .error e) ↔ ∃ k e, IsFault args env k e) ∧
      (∀ e, load args.tail env = .error e ↔ IsFirstFault (IsFault args env) 0 e) ∧
      (∀ s, load args.tail env = .ok s → BindsTo args env s.bind ∧ 1 ≤ s.limits.termConcurrency) ∧
      (∀ m ∈ numbers, ∀ value, env m.1 = some value → Text.isBlankString value = true →
        load args.tail (Function.update env m.1 none) = load args.tail env) ∧
      ∀ key value? s s', load args.tail env = .ok s → load args.tail (Function.update env key value?) = .ok s' →
        AgreesBut key s s' := by
  have hreports := reports_load args env
  have hnumbers : ∀ m ∈ numbers, m.1 ≠ "ALLOWED_ORIGINS" ∧ m.1 ≠ "MEALDB_BASE_URL" := by decide
  refine ⟨?_, fun e => hreports.eq_error_iff fun _ _ _ => isFault_unique, fun s h => ?_, fun m hm value => ?_,
    fun key value? s s' => agreesBut_of_load⟩
  · simpa using hreports.exists_error_iff
  · exact ⟨bindsTo_of_load h, termConcurrency_pos_of_load h⟩
  · exact load_update_none (hnumbers m hm)

/-- Two addresses to listen at beside a blank port, and a `--bind` that is the value of another one beside two variables
that are no numbers. -/
theorem load_faithful_mixed :
    let args := ["recipes", "-v", "--bind", "127.0.0.1:1", "--bind", "[::1]:2"]
    let env : Environment := fun key => [("PORT", " "), ("SEARCH_TERM_CONCURRENCY", "0")].lookup key
    let env' := Function.update env "SEARCH_MAX_RESULTS" (some "+7 ")
    let s : Settings := { standard with bind := .v6 [0, 0, 0, 0, 0, 0, 0, 1] 0 2, limits := ⟨20, 1⟩ }
    let s' : Settings := { s with limits := ⟨7, 1⟩ }
    let args' := ["recipes", "--bind", "--bind", "--bind"]
    let wrong : Environment := fun key => [("CATALOG_RETRY_ATTEMPTS", "-1"), ("SEARCH_MAX_RESULTS", "1e3")].lookup key
    let e : SettingsError := .badNumber "CATALOG_RETRY_ATTEMPTS" "-1" .invalidDigit
    load args.tail env = .ok s ∧ BindsTo args env s.bind ∧ 1 ≤ s.limits.termConcurrency ∧
      load args.tail (Function.update env "PORT" none) = .ok s ∧
      load args.tail env' = .ok s' ∧ AgreesBut "SEARCH_MAX_RESULTS" s s' ∧
      load args'.tail wrong = .error e ∧ IsFirstFault (IsFault args' wrong) 0 e := by
  intro args env env' s s' args' wrong e
  obtain ⟨-, -, hbind, hblank, hagrees⟩ := load_faithful args env
  obtain ⟨-, hfirst, -⟩ := load_faithful args' wrong
  have hs : load args.tail env = .ok s := by decide +kernel
  have hs' : load args.tail env' = .ok s' := by decide +kernel
  have he : load args'.tail wrong = .error e := by decide +kernel
  have hport := hblank ("PORT", Nat.pow 2 16) (by decide) " " rfl (by decide)
  exact ⟨hs, (hbind s hs).1, (hbind s hs).2, hport.trans hs, hs', hagrees _ _ s s' hs hs', he, (hfirst e).1 he⟩

end RecipeSearch.Settings
