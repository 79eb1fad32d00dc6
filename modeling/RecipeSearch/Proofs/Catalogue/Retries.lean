import Mathlib.Data.ENat.Lattice
import RecipeSearch.Proofs.Catalogue.Sending

/-!
# How often the catalogue is asked

A reply settles a request unless it is lost or blames the server (`Reply.Settles`). One step of the loop stops at a
reply that settles it and goes on at any other (`request_of_settles`, `request_succ_of_not_settles`), so that a run
stops at the first reply that does, or at the last attempt (`request_settled`, `request_exhausted`). Hence **a client
makes as many requests as it takes to settle the matter, but no more than it has attempts**, and what settles it decides
the result by itself; a failure is wrapped when more than one attempt has been used up, and then only once
(`retried_ask`). The requests are sent to the address of the question, which there is below every plain base address.
-/

namespace RecipeSearch.Catalogue

/-! ## What replies are -/

/-- The answer that a reply brings, with its body as far as it can be read. A status that only announces an answer
brings none, and an answer without content has an empty body. -/
def Reply.answer? : Reply → Option (Nat × Option String)
  | lost => none
  | received status body =>
    if isFinal status then some (status, if status = noContent then some "" else body.map withoutMark) else none

/-- The reply brings an answer, and it does not blame the server. -/
def Reply.Settles (reply : Reply) : Prop :=
  ∃ status body, reply.answer? = some (status, body) ∧ isServerError status = false

/-- What a reply by itself makes of a request for `url`. -/
def Reply.outcome (url : String) (reply : Reply) : Except CatalogueError String :=
  match reply.answer? with
  | none => .error (.unreachable url)
  | some (status, body) =>
    if isSuccess status then
      match body with
      | some body => .ok body
      | none => .error (.unreachable url)
    else .error (.status url status)

/-- The fault is one after which a request for `url` is made again. -/
def IsPassing (url : String) (e : CatalogueError) : Prop :=
  e = .unreachable url ∨ ∃ status, isServerError status = true ∧ e = .status url status

theorem not_isSuccess_of_isServerError {status : Nat} (h : isServerError status = true) : isSuccess status = false := by
  simp only [isServerError, Bool.and_eq_true, decide_eq_true_eq] at h
  simp only [isSuccess, Bool.and_eq_false_iff, decide_eq_false_iff_not]
  omega

/-- What a reply means, said of the answer in it. -/
theorem Reply.verdict_eq (url : String) (reply : Reply) :
    reply.verdict url = match reply.answer? with
      | none => .retryable (.unreachable url)
      | some (status, body) =>
        if isSuccess status then
          match body with
          | some body => .answered body
          | none => .failed (.unreachable url)
        else if isServerError status then .retryable (.status url status)
        else .failed (.status url status) := by
  cases reply with
  | lost => rfl
  | received status body =>
    cases hfinal : isFinal status with
    | false => simp [verdict, answer?, hfinal]
    | true =>
      by_cases hcontent : status = noContent
      · subst hcontent
        rfl
      · cases body <;> simp [verdict, answer?, hfinal, hcontent]

/-- A reply that settles the matter is taken for what it is by itself. -/
theorem Reply.verdict_of_settles (url : String) {reply : Reply} (h : reply.Settles) :
    reply.verdict url = match reply.outcome url with
      | .ok body => .answered body
      | .error e => .failed e := by
  obtain ⟨status, body, hanswer, herror⟩ := h
  rw [verdict_eq, outcome, hanswer]
  cases hsuccess : isSuccess status with
  | false => simp [hsuccess, herror]
  | true => cases body <;> simp [hsuccess]

/-- A reply that settles nothing is a fault that may pass. -/
theorem Reply.verdict_of_not_settles (url : String) {reply : Reply} (h : ¬ reply.Settles) :
    ∃ e, reply.outcome url = .error e ∧ reply.verdict url = .retryable e ∧ IsPassing url e := by
  rw [verdict_eq, outcome]
  match hanswer : reply.answer? with
  | none => exact ⟨_, rfl, rfl, .inl rfl⟩
  | some (status, body) =>
    have herror : isServerError status = true := by
      rw [← Bool.not_eq_false]
      intro hnone
      exact h ⟨status, body, hanswer, hnone⟩
    have hsuccess := not_isSuccess_of_isServerError herror
    exact ⟨.status url status, by simp [hsuccess], by simp [hsuccess, herror], .inr ⟨status, herror, rfl⟩⟩

/-- No reply by itself is a wrapped failure. -/
theorem Reply.outcome_ne_retriesExhausted {url u : String} {reply : Reply} {n : Nat} {e : CatalogueError} :
    reply.outcome url ≠ .error (.retriesExhausted u n e) := by
  rw [outcome]
  match reply.answer? with
  | none => nofun
  | some (status, body) =>
    cases hsuccess : isSuccess status with
    | false => simp [hsuccess]
    | true => cases body <;> simp [hsuccess]

/-! ## One step of the loop -/

section Loop

variable {url : String} {attempts made left i : Nat} {replies : Nat → Reply}

theorem request_of_settles (h : (replies made).Settles) :
    request url attempts replies made left = (made + 1, (replies made).outcome url) := by
  have hverdict := Reply.verdict_of_settles url h
  cases left with
  | zero =>
    rw [request, hverdict]
    cases (replies made).outcome url <;> rfl
  | succ left =>
    rw [request, hverdict]
    cases (replies made).outcome url <;> rfl

theorem request_succ_of_not_settles (h : ¬ (replies made).Settles) :
    request url attempts replies made (left + 1) = request url attempts replies (made + 1) left := by
  obtain ⟨e, -, hverdict, -⟩ := Reply.verdict_of_not_settles url h
  rw [request, hverdict]

/-- At the last attempt a reply that settles nothing is the failure of all. -/
theorem request_zero_of_not_settles (h : ¬ (replies made).Settles) :
    ∃ e, (replies made).outcome url = .error e ∧ IsPassing url e ∧
      request url attempts replies made 0 = (made + 1, .error (lastFailure url attempts e)) := by
  obtain ⟨e, houtcome, hverdict, he⟩ := Reply.verdict_of_not_settles url h
  exact ⟨e, houtcome, he, by rw [request, hverdict]⟩

/-! ## The run of the loop -/

/-- **A run stops at the first reply that settles the matter.** -/
theorem request_settled (hbefore : ∀ j < i, ¬ (replies (made + j)).Settles) (hi : (replies (made + i)).Settles)
    (hle : i ≤ left) :
    request url attempts replies made left = (made + i + 1, (replies (made + i)).outcome url) := by
  induction i generalizing made left with
  | zero => exact request_of_settles hi
  | succ i ih =>
    obtain ⟨left, rfl⟩ := Nat.exists_eq_succ_of_ne_zero (show left ≠ 0 by omega)
    have hshift (j : Nat) : made + 1 + j = made + (j + 1) := by omega
    have hfirst : ¬ (replies made).Settles := hbefore 0 (by omega)
    rw [Nat.succ_eq_add_one, request_succ_of_not_settles hfirst]
    have hrest := @ih (made + 1) left (fun j hj => ?_) ?_ (by omega)
    · rw [hrest, hshift]
    · rw [hshift]
      exact hbefore (j + 1) (by omega)
    · rw [hshift]
      exact hi

/-- **A run in which nothing settles the matter uses up all attempts.** -/
theorem request_exhausted (hnone : ∀ j ≤ left, ¬ (replies (made + j)).Settles) :
    ∃ e, (replies (made + left)).outcome url = .error e ∧ IsPassing url e ∧
      request url attempts replies made left = (made + left + 1, .error (lastFailure url attempts e)) := by
  induction left generalizing made with
  | zero => exact request_zero_of_not_settles (hnone 0 (Nat.le_refl 0))
  | succ left ih =>
    have hshift (j : Nat) : made + 1 + j = made + (j + 1) := by omega
    have hfirst : ¬ (replies made).Settles := hnone 0 (by omega)
    rw [request_succ_of_not_settles hfirst, ← hshift]
    refine ih fun j hj => ?_
    rw [hshift]
    exact hnone (j + 1) (by omega)

/-- Where every request is lost, all attempts are used up. -/
theorem made_request_lost : (request url attempts (fun _ => .lost) made left).1 = made + left + 1 := by
  have hlost : ¬ Reply.lost.Settles := by
    rintro ⟨status, body, hanswer, -⟩
    cases hanswer
  induction left generalizing made with
  | zero => rfl
  | succ left ih =>
    rw [request_succ_of_not_settles hlost, ih]
    omega

/-- A fault of the server passes, and the second of three replies decides. -/
example :
    request "u" 3 (fun i => if i = 0 then .received 503 none else .received 404 (some "")) 0 2 =
      (2, .error (.status "u" 404)) := by
  rfl

end Loop

/-! ## The client -/

/-- The number of the first reply that settles the matter, counted from one; infinite if none does. -/
noncomputable def settledAt (replies : Nat → Reply) : ℕ∞ :=
  sInf {k | ∃ i : Nat, (replies i).Settles ∧ k = i + 1}

/-- Either a first reply settles the matter, or none does. -/
theorem settledAt_cases (replies : Nat → Reply) :
    (∃ i : Nat, settledAt replies = i + 1 ∧ (replies i).Settles ∧ ∀ j < i, ¬ (replies j).Settles) ∨
      settledAt replies = ⊤ ∧ ∀ i, ¬ (replies i).Settles := by
  classical
  by_cases h : ∃ i, (replies i).Settles
  · refine .inl ⟨Nat.find h, ?_, Nat.find_spec h, fun j hj => Nat.find_min h hj⟩
    refine le_antisymm (sInf_le ⟨_, Nat.find_spec h, rfl⟩) (le_sInf ?_)
    rintro _ ⟨i, hi, rfl⟩
    have hle : Nat.find h ≤ i := Nat.find_min' h hi
    exact add_le_add_left (Nat.cast_le.2 hle) 1
  · refine .inr ⟨?_, not_exists.1 h⟩
    rw [settledAt, sInf_eq_top]
    rintro _ ⟨i, hi, -⟩
    exact absurd ⟨i, hi⟩ h

/-- What came of asking for `url` at most `limit` times, which is answered by `replies`: how many requests were made,
and the items of the answer. -/
structure Retried (item : Json.Reader α) (url : String) (limit : Nat) (replies : Nat → Reply) (made : Nat)
    (result : Except CatalogueError (List α)) : Prop where
  /-- Requests are made until the matter is settled, but no more than `limit`. -/
  made_eq : (made : ℕ∞) = min (settledAt replies) limit
  /-- The reply that settles the matter in time decides the result by itself. -/
  settled : ∀ i < limit, settledAt replies = i + 1 → result = ((replies i).outcome url).bind (decodeItems item url)
  /-- Otherwise the last failure is the result, as it is after a single attempt and wrapped after more. -/
  exhausted : limit < settledAt replies → ∃ e, (replies (limit - 1)).outcome url = .error e ∧
    result = .error (if limit = 1 then e else .retriesExhausted url limit e)
  /-- A wrapped failure is a lost reply or one that blames the server, after all of several attempts. -/
  wrapped : ∀ u n e, result = .error (.retriesExhausted u n e) →
    limit < settledAt replies ∧ 2 ≤ limit ∧ u = url ∧ n = limit ∧ IsPassing url e
  /-- A request is made again only after a lost reply or one that blames the server. -/
  again : ∀ i, i + 1 < made → ¬ (replies i).Settles

/-- What the client is answered to a question: an address that cannot be asked is as good as one that does not
answer. -/
def Client.answers (client : Client) (question : Question) (network : Network) : Nat → Reply :=
  if (client.address? question network).isSome then network.replies else fun _ => .lost

theorem decodeItems_ne_retriesExhausted {item : Json.Reader α} {url body u : String} {n : Nat} {e : CatalogueError} :
    decodeItems item url body ≠ .error (.retriesExhausted u n e) := by
  rw [decodeItems]
  split
  · nofun
  · cases Json.read (envelope item) body.toList <;> simp [Except.mapError]

/-- What a reply by itself comes to is no wrapped failure. -/
theorem bind_decodeItems_ne_retriesExhausted {item : Json.Reader α} {url u : String} {reply : Reply} {n : Nat}
    {e : CatalogueError} :
    (reply.outcome url).bind (decodeItems item url) ≠ .error (.retriesExhausted u n e) := by
  cases houtcome : reply.outcome url with
  | ok body => exact decodeItems_ne_retriesExhausted
  | error e' =>
    rintro ⟨⟩
    exact Reply.outcome_ne_retriesExhausted houtcome

section Request

variable {item : Json.Reader α} {url : String} {limit : Nat} {replies : Nat → Reply}

/-- The matter is settled while there are attempts left. -/
theorem retried_in_time {i : Nat} (hat : settledAt replies = i + 1) (hi : (replies i).Settles)
    (hbefore : ∀ j < i, ¬ (replies j).Settles) (hle : i + 1 ≤ limit) :
    Retried item url limit replies (request url limit replies 0 (limit - 1)).1
      ((request url limit replies 0 (limit - 1)).2.bind (decodeItems item url)) := by
  have hrequest : request url limit replies 0 (limit - 1) = (i + 1, (replies i).outcome url) := by
    have hrun : request url limit replies 0 (limit - 1) = (0 + i + 1, (replies (0 + i)).outcome url) :=
      request_settled (by simpa using hbefore) (by simpa using hi) (by omega)
    simpa using hrun
  have hle' : settledAt replies ≤ limit := by
    rw [hat]
    exact_mod_cast hle
  rw [hrequest]
  refine ⟨?_, ?_, ?_, ?_, ?_⟩
  · rw [min_eq_left hle', hat]
    exact Nat.cast_succ i
  · intro j _ hj
    obtain rfl : i = j := by
      rw [hat] at hj
      have : i + 1 = j + 1 := by exact_mod_cast hj
      omega
    rfl
  · exact fun hlate => absurd hle' (not_le_of_gt hlate)
  · exact fun u n e heq => absurd heq bind_decodeItems_ne_retriesExhausted
  · exact fun j hj => hbefore j (by omega)

/-- The attempts are used up before the matter is settled. -/
theorem retried_late (hlimit : 0 < limit) (hlate : limit < settledAt replies)
    (hnone : ∀ i < limit, ¬ (replies i).Settles) :
    Retried item url limit replies (request url limit replies 0 (limit - 1)).1
      ((request url limit replies 0 (limit - 1)).2.bind (decodeItems item url)) := by
  have hnone' : ∀ j ≤ limit - 1, ¬ (replies (0 + j)).Settles := fun j hj => by simpa using hnone j (by omega)
  obtain ⟨e, houtcome, hpassing, hrequest⟩ := request_exhausted hnone'
  rw [Nat.zero_add] at houtcome hrequest
  rw [hrequest]
  refine ⟨?_, ?_, ?_, ?_, ?_⟩
  · rw [min_eq_right hlate.le]
    exact_mod_cast Nat.sub_add_cancel hlimit
  · intro i hi hat
    rw [hat] at hlate
    have : limit < i + 1 := by exact_mod_cast hlate
    omega
  · exact fun _ => ⟨e, houtcome, rfl⟩
  · intro u n e' heq
    -- a failure that may pass is none that is wrapped, so that there has been more than one attempt
    have hseveral : limit ≠ 1 := by
      rintro rfl
      rcases hpassing with rfl | ⟨status, -, rfl⟩ <;> cases heq
    rw [lastFailure, if_neg hseveral] at heq
    cases heq
    exact ⟨hlate, by omega, rfl, rfl, hpassing⟩
  · exact fun i hi => hnone i (by omega)

/-- **The loop asks until the matter is settled or the attempts are used up.** -/
theorem retried_request (hlimit : 0 < limit) :
    Retried item url limit replies (request url limit replies 0 (limit - 1)).1
      ((request url limit replies 0 (limit - 1)).2.bind (decodeItems item url)) := by
  rcases settledAt_cases replies with ⟨i, hat, hi, hbefore⟩ | ⟨htop, hnone⟩
  · rcases Nat.lt_or_ge i limit with hlt | hge
    · exact retried_in_time hat hi hbefore hlt
    · refine retried_late hlimit ?_ fun j hj => hbefore j (by omega)
      rw [hat]
      exact_mod_cast Nat.lt_succ_of_le hge
  · refine retried_late hlimit ?_ fun i _ => hnone i
    rw [htop]
    exact ENat.natCast_lt_top limit

end Request

section Ask

variable (client : Client) (item : Json.Reader α) (question : Question) (network : Network)

theorem result_ask :
    (client.ask item question network).result =
      (request (client.url question) client.attempts (client.answers question network) 0 (client.attempts - 1)).2.bind
        (decodeItems item (client.url question)) := by
  rfl

theorem requests_ask :
    (client.ask item question network).requests =
      match client.address? question network with
      | some address =>
        List.replicate (request (client.url question) client.attempts (client.answers question network) 0
          (client.attempts - 1)).1 ("GET " ++ address.target)
      | none => [] := by
  unfold Client.ask Client.answers
  cases client.address? question network <;> rfl

variable {client item question network}

theorem answers_of_some {address : Address} (h : client.address? question network = some address) :
    client.answers question network = network.replies := by
  rw [Client.answers, h]
  rfl

/-- A question that has an address is asked there. -/
theorem retried_ask_of_some {address : Address} (h : client.address? question network = some address) :
    Retried item (client.url question) client.attempts network.replies
        (client.ask item question network).requests.length (client.ask item question network).result ∧
      ∀ request ∈ (client.ask item question network).requests, request = "GET " ++ address.target := by
  rw [result_ask, requests_ask, h, answers_of_some h]
  refine ⟨?_, fun _ => List.eq_of_mem_replicate⟩
  rw [List.length_replicate]
  exact retried_request client.attempts_pos

/-- A question without an address is not asked, as if every request for it were lost. -/
theorem retried_ask_of_none (h : client.address? question network = none) :
    Retried item (client.url question) client.attempts (fun _ => .lost) client.attempts
        (client.ask item question network).result ∧
      (client.ask item question network).requests = [] := by
  have hanswers : client.answers question network = fun _ => .lost := by
    rw [Client.answers, h]
    rfl
  have hmade : (request (client.url question) client.attempts (fun _ => .lost) 0 (client.attempts - 1)).1 =
      client.attempts := by
    have hpos := client.attempts_pos
    rw [made_request_lost]
    omega
  have hretried : Retried item (client.url question) client.attempts (fun _ => .lost) _ _ :=
    retried_request client.attempts_pos
  rw [hmade] at hretried
  rw [result_ask, requests_ask, h, hanswers]
  exact ⟨hretried, rfl⟩

end Ask

/-- **A client asks until the matter is settled, but no more often than it has attempts**, of which there is at least
one, and every request is the same. A question that cannot be asked fails as if all requests for it were lost, and none
is made. From every plain base address to a host that is known a question is asked, unless the address of the request
would be too long. -/
theorem retried_ask (baseUrl : String) (attempts : Nat) (item : Json.Reader α) (question : Question)
    (network : Network) :
    let client := Client.new baseUrl attempts
    let exchange := client.ask item question network
    (∀ address, client.address? question network = some address →
        Retried item (client.url question) (max 1 attempts) network.replies exchange.requests.length exchange.result ∧
          ∀ request ∈ exchange.requests, request = "GET " ++ address.target) ∧
      (client.address? question network = none →
        Retried item (client.url question) (max 1 attempts) (fun _ => .lost) (max 1 attempts) exchange.result ∧
          exchange.requests = []) ∧
      ∀ site : Site, baseUrl = site.text → IsSegment question.endpoint.toList →
        network.resolves (String.ofList site.host) = true →
        site.text.length + question.endpoint.length + (Text.formEncode question.key.toList).length +
          (Text.formEncode question.value.toList).length + 3 ≤ Address.maxLength →
        client.address? question network = some (site.addressFor question) := by
  refine ⟨fun address haddress => retried_ask_of_some haddress, fun hnone => retried_ask_of_none hnone, ?_⟩
  rintro site rfl hendpoint hknown hlength
  exact site.address?_new attempts hendpoint hknown hlength

/-- A lost request and a fault of the server pass, and the third of four attempts brings the answer. -/
theorem retried_ask_recovered :
    let site : Site :=
      { scheme := .http
        labels := ["kitchen".toList, "test".toList]
        all_isLabelChar := by decide
        last_label := by decide
        segments := ["api".toList]
        isSegment_of_mem := by decide
        last_segment := by decide }
    let question : Question := .lookup .name "soy sauce"
    let replies : Nat → Reply := fun i =>
      if i = 0 then .lost
      else if i = 1 then .received 503 none
      else .received 200 (some "\x7b\"meals\":[\x7b\"strArea\":\"Thai\"\x7d]\x7d")
    let network : Network := ⟨(· == "kitchen.test"), replies⟩
    let client := Client.new "http://kitchen.test/api" 4
    let exchange := client.ask areaEntry question network
    client.address? question network = some (site.addressFor question) ∧
      exchange.requests = List.replicate 3 "GET /api/search.php?s=soy+sauce" ∧ exchange.result = .ok [some "Thai"] ∧
      Retried areaEntry (client.url question) 4 replies 3 exchange.result := by
  intro site question replies network client exchange
  obtain ⟨hasked, -, hsite⟩ := retried_ask "http://kitchen.test/api" 4 areaEntry question network
  have haddress := hsite site (by decide) (by decide) (by decide) (by decide)
  have hrequests : exchange.requests = List.replicate 3 "GET /api/search.php?s=soy+sauce" := by
    rw [requests_ask, haddress, answers_of_some haddress]
    decide
  have hresult : exchange.result = .ok [some "Thai"] := by
    rw [result_ask, answers_of_some haddress]
    decide +kernel
  have hretried := (hasked _ haddress).1
  rw [hrequests] at hretried
  exact ⟨haddress, hrequests, hresult, hretried⟩

end RecipeSearch.Catalogue
