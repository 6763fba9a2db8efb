import Mathlib.Tactic.Common
import NetworkPolicy.Proofs.Access.Calls
import NetworkPolicy.Proofs.Access.UnknownApps

/-!
# Which apps a lookup asks for

The ids of apps are sent as one value with commas between them, and the directory reads the value
by cutting it at its commas.  An id is any text that is not empty, so it may hold commas itself, and
then it is asked for as several apps.

* `askedApps` — the apps that a query asks for.
* `lookup_asks_pieces` — a lookup asks for what is between the commas of the ids, which is the ids
  themselves exactly if none of them holds a comma.
* `comma_asks_others` — a policy whose id is looked up as two other apps.
-/

namespace NetworkPolicy.Remote

/-! ## Ids with commas -/

/-- What is between the commas of an id. -/
def pieces (app : String) : List String := (Form.splitAt ',' app.toList).map String.ofList

lemma pieces_injective : Function.Injective pieces := by
  intro app app' h
  have hparts := (List.map_inj_right fun _ _ => String.ofList_inj.mp).mp h
  have htexts := congrArg [','].intercalate hparts
  rw [Form.intercalate_splitAt, Form.intercalate_splitAt] at htexts
  exact String.toList_injective htexts

lemma notMem_of_mem_pieces {app piece : String} (h : piece ∈ pieces app) : ',' ∉ piece.toList := by
  obtain ⟨part, hpart, rfl⟩ := List.mem_map.mp h
  rw [String.toList_ofList]
  exact Form.notMem_of_mem_splitAt hpart

lemma pieces_of_notMem {app : String} (h : ',' ∉ app.toList) : pieces app = [app] := by
  rw [pieces, Form.splitAt_of_notMem h, List.map_singleton, String.ofList_toList]

/-- Ids are their pieces exactly if there is no comma in any of them. -/
lemma flatMap_pieces_eq_iff {apps : List String} :
    apps.flatMap pieces = apps ↔ ∀ app ∈ apps, ',' ∉ app.toList := by
  constructor
  · intro h app happ
    rw [← h] at happ
    obtain ⟨whole, -, hpiece⟩ := List.mem_flatMap.mp happ
    exact notMem_of_mem_pieces hpiece
  · intro h
    rw [List.flatMap_congr fun app happ => pieces_of_notMem (h app happ),
      List.flatMap_singleton']

lemma pieces_intercalate {apps : List String} (happs : apps ≠ []) :
    pieces (",".intercalate apps) = apps.flatMap pieces := by
  have htexts : apps.map String.toList ≠ [] := mt List.map_eq_nil_iff.mp happs
  rw [pieces, String.toList_intercalate]
  show (Form.splitAt ',' ([','].intercalate (apps.map String.toList))).map String.ofList = _
  rw [Form.splitAt_intercalate htexts, List.flatMap_map, List.map_flatMap]
  rfl

/-! ## The query -/

/-- The query for some apps, as it is sent. -/
def appsText (apps : List String) : String := Form.encodePairs (appsQuery apps)

/-- The apps that a query asks for: what is between the commas of its `guids`. -/
def askedApps (query : String) : List String :=
  ((Form.pairs query).filter (·.1 = "guids")).flatMap fun entry => pieces entry.2

lemma appsQuery_ne_nil (apps : List String) : appsQuery apps ≠ [] := List.cons_ne_nil _ _

lemma pairs_appsText (apps : List String) :
    Form.pairs (appsText apps) = [("guids", ",".intercalate apps), ("per_page", "5000")] :=
  Form.pairs_encodePairs (appsQuery apps)

lemma askedApps_appsText {apps : List String} (happs : apps ≠ []) :
    askedApps (appsText apps) = apps.flatMap pieces := by
  rw [askedApps, pairs_appsText, ← pieces_intercalate happs]
  exact List.append_nil _

/-- Queries are the same exactly if they ask for the same apps. -/
lemma appsText_eq_iff {apps others : List String} (happs : apps ≠ []) (hothers : others ≠ []) :
    appsText apps = appsText others ↔ apps.flatMap pieces = others.flatMap pieces := by
  rw [← pieces_intercalate happs, ← pieces_intercalate hothers, pieces_injective.eq_iff]
  constructor
  · intro h
    have hpairs := congrArg Form.pairs h
    rw [pairs_appsText, pairs_appsText] at hpairs
    simpa using hpairs
  · intro h
    rw [appsText, appsQuery, h]
    rfl

/-! ## The request -/

lemma forall_mem_appsOf_iff {batch : List Policy} {holds : String → Prop} :
    (∀ app ∈ Guard.appsOf batch, holds app)
      ↔ ∀ p ∈ batch, holds p.source ∧ holds p.destination.id := by
  simp only [Guard.mem_appsOf, appIdsOf, List.forall_mem_flatMap]
  refine forall₂_congr fun p _ => ?_
  simp only [Policy.appIds, List.forall_mem_cons, List.not_mem_nil, false_implies, implies_true,
    and_true]

/-- The query for some apps is the query of the request, and no other part of the request depends
on the apps. -/
lemma directoryCall?_apps {r : Remote} (hbase : Url.Bare r.directoryUrl) (token : String)
    (apps : List String) :
    r.directoryCall? token "/v3/apps" (appsQuery apps)
      = (r.directoryCall? token "/v3/apps" []).map (·.withQuery (appsText apps)) :=
  directoryCall?_eq hbase ⟨by decide, by decide⟩ ⟨'s', rfl, by decide, by decide⟩
    (appsQuery_ne_nil apps)

/-- **A lookup asks for what is between the commas of the ids.**  Behind the address of the
directory's apps comes a query that reads as the ids with commas between them, hence as what is
between the commas of the ids; these are the ids themselves exactly if no id holds a comma, and for
the apps of a batch exactly if no policy of it names an app with a comma.  Two lists are asked for
by the same address exactly if they are the same when cut at their commas, so lists without commas
in their ids are told apart.  Where the address of the directory has no query or fragment of its
own, both requests that look apps up have exactly that query. -/
theorem lookup_asks_pieces (r : Remote) {apps : List String} (happs : apps ≠ []) :
    r.directoryAddress "/v3/apps" (appsQuery apps)
      = Url.join r.directoryUrl "/v3/apps" ++ "?" ++ appsText apps ∧
    Form.pairs (appsText apps) = [("guids", ",".intercalate apps), ("per_page", "5000")] ∧
    askedApps (appsText apps) = apps.flatMap pieces ∧
    (askedApps (appsText apps) = apps ↔ ∀ app ∈ apps, ',' ∉ app.toList) ∧
    (∀ batch : List Policy, Guard.appsOf batch = apps →
      (askedApps (appsText apps) = apps ↔
        ∀ p ∈ batch, ',' ∉ p.source.toList ∧ ',' ∉ p.destination.id.toList)) ∧
    (∀ others : List String, others ≠ [] →
      (r.directoryAddress "/v3/apps" (appsQuery apps)
          = r.directoryAddress "/v3/apps" (appsQuery others)
        ↔ apps.flatMap pieces = others.flatMap pieces) ∧
      ((∀ app ∈ apps, ',' ∉ app.toList) → (∀ app ∈ others, ',' ∉ app.toList) →
        r.directoryAddress "/v3/apps" (appsQuery apps)
          = r.directoryAddress "/v3/apps" (appsQuery others) → apps = others)) ∧
    (Url.Bare r.directoryUrl → ∀ token : String,
      r.call? (.spaceGuids token apps)
        = (r.directoryCall? token "/v3/apps" []).map (·.withQuery (appsText apps)) ∧
      r.call? (.appSpaces token apps)
        = (r.directoryCall? token "/v3/apps" []).map (·.withQuery (appsText apps))) := by
  have haddress := fun apps => directoryAddress_eq r "/v3/apps" (appsQuery_ne_nil apps)
  have hasked : askedApps (appsText apps) = apps ↔ ∀ app ∈ apps, ',' ∉ app.toList := by
    rw [askedApps_appsText happs]
    exact flatMap_pieces_eq_iff
  have hsame : ∀ others : List String, others ≠ [] →
      (r.directoryAddress "/v3/apps" (appsQuery apps)
          = r.directoryAddress "/v3/apps" (appsQuery others)
        ↔ apps.flatMap pieces = others.flatMap pieces) := by
    intro others hothers
    rw [haddress, haddress, String.append_right_inj]
    exact appsText_eq_iff happs hothers
  refine ⟨haddress apps, pairs_appsText apps, askedApps_appsText happs, hasked,
    fun batch hbatch => ?_, fun others hothers => ⟨hsame others hothers, ?_⟩,
    fun hbase token => ⟨directoryCall?_apps hbase token apps, directoryCall?_apps hbase token apps⟩⟩
  · rw [hasked, ← hbatch]
    exact forall_mem_appsOf_iff
  · intro hwhole hothers' h
    have hpieces := (hsame others hothers).mp h
    rwa [flatMap_pieces_eq_iff.mpr hwhole, flatMap_pieces_eq_iff.mpr hothers'] at hpieces

/-- Two apps whose ids have no comma, whatever else is in them. -/
def reservedApps : List String := ["web&guids=x", "café #1"]

/-- The two apps are asked for as they are, and they are the query of a request that is sent. -/
theorem lookup_asks_pieces_reserved :
    reservedApps ≠ [] ∧ askedApps (appsText reservedApps) = reservedApps ∧
    ∃ call, nearby.call? (.spaceGuids "t" reservedApps) = some call ∧
      call.url.query = some (appsText reservedApps).toList := by
  have happs : reservedApps ≠ [] := List.cons_ne_nil _ _
  obtain ⟨-, -, -, hasked, -, -, hcalls⟩ := lookup_asks_pieces nearby happs
  have hdirectory : (nearby.directoryCall? "t" "/v3/apps" []).isSome := by decide +kernel
  obtain ⟨base, hbase⟩ := Option.isSome_iff_exists.mp hdirectory
  have hcall := (hcalls ⟨by decide, by decide⟩ "t").1
  rw [hbase, Option.map_some] at hcall
  exact ⟨happs, hasked.mpr (by decide), _, hcall, rfl⟩

/-! ## An id with a comma -/

/-- A connection of an app to itself, with a comma in the id of the app. -/
def commaLoop : Policy := ⟨"a,b", ⟨"a,b", .tcp, ⟨7000, 7000, some 7000, by decide, by decide, rfl⟩⟩⟩

/-- The batch is accepted, and its one app is looked up as two others: by the request that looks
these two up. -/
theorem comma_asks_others :
    validatePolicies [commaLoop] = .ok () ∧ Guard.appsOf [commaLoop] = ["a,b"] ∧
    askedApps (appsText (Guard.appsOf [commaLoop])) = ["a", "b"] ∧
    ["a,b"] ≠ ["a", "b"] ∧ appsText ["a,b"] = appsText ["a", "b"] ∧
    ∀ (r : Remote) (token : String),
      r.call? (.spaceGuids token ["a,b"]) = r.call? (.spaceGuids token ["a", "b"]) := by
  have happs : Guard.appsOf [commaLoop] = ["a,b"] := by decide
  have hquery : appsQuery ["a,b"] = appsQuery ["a", "b"] := by decide
  refine ⟨by decide, happs, ?_, by decide, congrArg Form.encodePairs hquery, fun r token => ?_⟩
  · rw [happs, askedApps_appsText (List.cons_ne_nil _ _)]
    decide
  · exact congrArg (r.directoryCall? token "/v3/apps") hquery

end NetworkPolicy.Remote
