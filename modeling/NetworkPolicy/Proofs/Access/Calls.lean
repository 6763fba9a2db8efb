import Mathlib.Tactic.Common
import NetworkPolicy.Access.Remote
import NetworkPolicy.Proofs.Http.Url

/-!
# What callers put into requests to the collaborators

A token, the name of a space and the guid of its organization come from outside and may be any
texts.  They are sent as form-encoded pairs, in a query or in a body, and so they arrive as they
are: the pairs that are read of a request are the pairs that were put into it
(`parameters_arrive`).

* `directoryCall?_eq` — the pairs of a question to the directory are the query of the request, and
  no other part of the request depends on them.
* `call?_checkToken` — the request about a token depends on the token in its body only.
-/

namespace NetworkPolicy

/-- A call with another query. -/
def Call.withQuery (call : Call) (query : String) : Call :=
  { call with url := { call.url with query := some query.toList } }

namespace Remote

variable {r : Remote} {path token : String} {query : List (String × String)}

/-! ## Questions to the directory -/

lemma directoryAddress_eq (r : Remote) (path : String) (hquery : query ≠ []) :
    r.directoryAddress path query
      = Url.join r.directoryUrl path ++ "?" ++ Form.encodePairs query := by
  rw [directoryAddress, if_neg (mt List.isEmpty_iff.mp hquery)]

lemma directoryAddress_nil (r : Remote) (path : String) :
    r.directoryAddress path [] = Url.join r.directoryUrl path := rfl

/-- A question to the directory is sent as the request without the question, with the pairs of the
question as its query. -/
lemma directoryCall?_eq (hbase : Url.Bare r.directoryUrl) (hpath : Url.Bare path)
    (hends : ∃ c ∈ path.toList.getLast?, c ≠ '/' ∧ Url.isPlain c = true) (hquery : query ≠ []) :
    r.directoryCall? token path query
      = (r.directoryCall? token path []).map (·.withQuery (Form.encodePairs query)) := by
  have hread := Url.parse?_append_query (Url.bare_join hbase hpath)
    (Url.ends_join r.directoryUrl hends) (Url.plain_encodePairs query)
  rw [directoryCall?, directoryCall?, directoryAddress_eq r path hquery, directoryAddress_nil,
    hread]
  cases Url.parse? (Url.join r.directoryUrl path) with
  | none => rfl
  | some url =>
      by_cases htoken : isHeaderToken token
      · simp [htoken, Call.withQuery]
      · simp [htoken]

/-! ## Memberships -/

/-- The path of the spaces of a user. -/
def spacesPath (user : String) : String := "/v2/users/" ++ user ++ "/spaces"

/-- The query for a space among those of a user, as it is sent. -/
def membershipText (space : Space) : String := Form.encodePairs (membershipQuery space)

lemma membershipQuery_ne_nil (space : Space) : membershipQuery space ≠ [] := List.cons_ne_nil _ _

lemma bare_spacesPath {user : String} (h : Url.Bare user) : Url.Bare (spacesPath user) := by
  have hmem : ∀ c, c ∉ "/v2/users/".toList → c ∉ "/spaces".toList → c ∉ user.toList →
      c ∉ (spacesPath user).toList := by
    intro c hfront hback huser
    rw [spacesPath, String.toList_append, String.toList_append, List.mem_append, List.mem_append]
    rintro ((hc | hc) | hc)
    · exact hfront hc
    · exact huser hc
    · exact hback hc
  exact ⟨hmem '?' (by decide) (by decide) h.1, hmem '#' (by decide) (by decide) h.2⟩

lemma ends_spacesPath (user : String) :
    ∃ c ∈ (spacesPath user).toList.getLast?, c ≠ '/' ∧ Url.isPlain c = true := by
  refine ⟨'s', ?_, by decide, by decide⟩
  rw [spacesPath, String.toList_append, List.getLast?_append]
  rfl

lemma membershipText_injective : Function.Injective membershipText := by
  intro space space' h
  have hquery : membershipQuery space = membershipQuery space' := Form.encodePairs_injective h
  simp only [membershipQuery, List.cons.injEq, Prod.mk.injEq, and_true, true_and,
    String.append_right_inj] at hquery
  cases space
  cases space'
  exact Space.mk.injEq .. ▸ hquery

/-- What is asked about a space is the query of the request, and no other part of the request
depends on the space. -/
lemma call?_userSpace {user : String} (hbase : Url.Bare r.directoryUrl) (huser : Url.Bare user)
    (token : String) (space : Space) :
    r.call? (.userSpace token user space)
      = (r.directoryCall? token (spacesPath user) []).map (·.withQuery (membershipText space)) :=
  directoryCall?_eq hbase (bare_spacesPath huser) (ends_spacesPath user)
    (membershipQuery_ne_nil space)

/-! ## Tokens -/

lemma call?_checkToken (r : Remote) (token : String) :
    r.call? (.checkToken token)
      = (Url.parse? (Url.join r.identityUrl "/check_token")).map fun url =>
        { method := "POST"
          url
          authorization := basicCredentials r.clientName r.clientSecret
          contentType := some "application/x-www-form-urlencoded"
          body := Form.encodePairs (tokenForm token) } := by
  cases h : Url.parse? (Url.join r.identityUrl "/check_token") with
  | none => simp [call?, formCall?, h]
  | some url => simp [call?, formCall?, h]

/-! ## What arrives -/

/-- **What is put into a request arrives as it was put, and nothing else arrives with it.**

The address of the question whether a user has a space is the address of the user's spaces with a
query behind it, and this query reads as the name and the organization of the space, whatever
characters they hold.  Where neither the address of the directory nor the user's guid has a query or
a fragment of its own, the request is the one for the user's spaces with exactly that query.
Whether the request about a token can be made does not depend on the token, and the body of the
request reads as the token.  So different spaces make different queries and addresses, and
different tokens different bodies. -/
theorem parameters_arrive (r : Remote) :
    (∀ (user : String) (space : Space),
      r.directoryAddress (spacesPath user) (membershipQuery space)
        = Url.join r.directoryUrl (spacesPath user) ++ "?" ++ membershipText space ∧
      Form.pairs (membershipText space)
        = [("q", "name:" ++ space.name), ("q", "organization_guid:" ++ space.orgGuid)] ∧
      (Url.Bare r.directoryUrl → Url.Bare user → ∀ token : String,
        r.call? (.userSpace token user space)
          = (r.directoryCall? token (spacesPath user) []).map
              (·.withQuery (membershipText space)))) ∧
    (∀ token : String,
      ((r.call? (.checkToken token)).isSome
        ↔ (Url.parse? (Url.join r.identityUrl "/check_token")).isSome) ∧
      ∀ call, r.call? (.checkToken token) = some call → Form.pairs call.body = [("token", token)]) ∧
    Function.Injective membershipText ∧
    (∀ user : String, Function.Injective fun space =>
      r.directoryAddress (spacesPath user) (membershipQuery space)) ∧
    ∀ (token token' : String) (call call' : Call), r.call? (.checkToken token) = some call →
      r.call? (.checkToken token') = some call' → call.body = call'.body → token = token' := by
  have hbody : ∀ (token : String) (call : Call), r.call? (.checkToken token) = some call →
      Form.pairs call.body = [("token", token)] := by
    intro token call hcall
    rw [call?_checkToken] at hcall
    obtain ⟨url, -, rfl⟩ := Option.map_eq_some_iff.mp hcall
    exact Form.pairs_encodePairs (tokenForm token)
  refine ⟨fun user space => ⟨?_, ?_, fun hbase huser token => ?_⟩,
    fun token => ⟨?_, hbody token⟩, membershipText_injective, fun user space space' h => ?_, ?_⟩
  · exact directoryAddress_eq r _ (membershipQuery_ne_nil space)
  · exact Form.pairs_encodePairs (membershipQuery space)
  · exact call?_userSpace hbase huser token space
  · rw [call?_checkToken, Option.isSome_map]
  · have haddress : ∀ space, r.directoryAddress (spacesPath user) (membershipQuery space)
        = Url.join r.directoryUrl (spacesPath user) ++ "?" ++ membershipText space :=
      fun space => directoryAddress_eq r _ (membershipQuery_ne_nil space)
    simp only [haddress] at h
    exact membershipText_injective (String.append_right_inj _ |>.mp h)
  · intro token token' call call' hcall hcall' hsame
    have hpairs := (hbody token call hcall).symm.trans (hsame ▸ hbody token' call' hcall')
    simpa using hpairs

/-! ### A name and a token that hold separators -/

/-- Collaborators whose addresses are nothing but their hosts. -/
def nearby : Remote := ⟨"http://uaa", "policies", "secret", "http://cc"⟩

/-- A name that would put another question, and a guid that would end the address. -/
def forged : Space := ⟨"a&q=name:b", "o#1"⟩

/-- The question about the space and the token are sent, and they arrive as they are. -/
theorem parameters_arrive_forged :
    (∃ call, nearby.call? (.userSpace "t" "dev" forged) = some call ∧
      call.url.query = some (membershipText forged).toList) ∧
    Form.pairs (membershipText forged)
      = [("q", "name:a&q=name:b"), ("q", "organization_guid:o#1")] ∧
    (∃ call, nearby.call? (.checkToken "t&token=u+%26") = some call ∧
      Form.pairs call.body = [("token", "t&token=u+%26")]) ∧
    membershipText forged ≠ membershipText ⟨"a", "o"⟩ := by
  obtain ⟨hspaces, htokens, hinjective, -⟩ := parameters_arrive nearby
  obtain ⟨-, hpairs, hcall⟩ := hspaces "dev" forged
  obtain ⟨hsent, hbody⟩ := htokens "t&token=u+%26"
  have hdirectory : (nearby.directoryCall? "t" (spacesPath "dev") []).isSome := by decide +kernel
  obtain ⟨base, hbase⟩ := Option.isSome_iff_exists.mp hdirectory
  obtain ⟨call, htoken⟩ := Option.isSome_iff_exists.mp (hsent.mpr (by decide +kernel))
  have hspace := hcall ⟨by decide, by decide⟩ ⟨by decide, by decide⟩ "t"
  rw [hbase, Option.map_some] at hspace
  refine ⟨⟨_, hspace, rfl⟩, hpairs, ⟨call, htoken, hbody call htoken⟩, fun h => ?_⟩
  exact absurd (hinjective h) (by decide)

end Remote

end NetworkPolicy
