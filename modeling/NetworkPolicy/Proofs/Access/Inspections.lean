import Mathlib.Tactic.Common
import NetworkPolicy.Proofs.Access.Agreement
import NetworkPolicy.Proofs.Access.Exchanges
import NetworkPolicy.Proofs.FirstOccurrences

/-!
# What the guard asks, and in which order

Lookups cost time and tell the collaborators what is going on here, so which of them are made
matters as much as what comes out.  The guard makes few: for an administrator none, and for anyone
else one for its token, one for all apps together, and for each space one for the space and one for
the membership in it.

What is asked about one space is an *inspection* (`Inspection`).  By its type a membership is only
asked for in a space that was found, and in the very space that was found.  The two tasks of the
guard differ in how they arrange the lookups of their inspections, and in what makes them stop.

* A decision looks all spaces up before it asks for the first membership (`SpacesFirst`), and stops
  at a failure or a denial.
* A listing is done with one space before it goes on to the next (`SpaceBySpace`), and stops only at
  a failure.

`lookups_once_in_order` says this of every run, whoever answers and whatever the answers are.
-/

namespace NetworkPolicy

/-! ## Inspections -/

/-- What the guard has asked about the space of a guid. -/
inductive Inspection where
  /-- The space was looked up, and no more. -/
  | sought (guid : String) (answer : Except LookupFault (Option Space))
  /-- The space was found, and then the membership in it was asked for. -/
  | entered (guid : String) (space : Space) (answer : Except LookupFault (Option Space))

namespace Inspection

def guid : Inspection → String
  | sought guid _ => guid
  | entered guid _ _ => guid

/-- The lookup of the space. -/
def spaceExchange (token : String) : Inspection → Exchange
  | sought guid answer => ⟨.space token guid, answer⟩
  | entered guid space _ => ⟨.space token guid, Except.ok (some space)⟩

/-- The lookup of the user's membership in the space that was found, if it was made. -/
def memberExchanges (token user : String) : Inspection → List Exchange
  | sought .. => []
  | entered _ space answer => [⟨.userSpace token user space, answer⟩]

@[simp] lemma guid_sought (guid : String) (answer : Except LookupFault (Option Space)) :
    (sought guid answer).guid = guid := rfl

@[simp] lemma guid_entered (guid : String) (space : Space)
    (answer : Except LookupFault (Option Space)) : (entered guid space answer).guid = guid := rfl

@[simp] lemma spaceExchange_sought (token guid : String)
    (answer : Except LookupFault (Option Space)) :
    (sought guid answer).spaceExchange token = ⟨.space token guid, answer⟩ := rfl

@[simp] lemma spaceExchange_entered (token guid : String) (space : Space)
    (answer : Except LookupFault (Option Space)) :
    (entered guid space answer).spaceExchange token
      = ⟨.space token guid, Except.ok (some space)⟩ := rfl

@[simp] lemma memberExchanges_sought (token user guid : String)
    (answer : Except LookupFault (Option Space)) :
    (sought guid answer).memberExchanges token user = [] := rfl

@[simp] lemma memberExchanges_entered (token user guid : String) (space : Space)
    (answer : Except LookupFault (Option Space)) :
    (entered guid space answer).memberExchanges token user
      = [⟨.userSpace token user space, answer⟩] := rfl

/-- The membership was asked for. -/
def isEntered : Inspection → Bool
  | sought .. => false
  | entered .. => true

/-- Both lookups, one right after the other. -/
def exchanges (token user : String) (i : Inspection) : List Exchange :=
  i.spaceExchange token :: i.memberExchanges token user

/-- Nothing more is to be asked: the space does not exist, or the membership was asked for. -/
inductive IsOver : Inspection → Prop where
  | missing {guid : String} : IsOver (sought guid (Except.ok none))
  | entered {guid : String} {space : Space} {answer : Except LookupFault (Option Space)} :
      IsOver (entered guid space answer)

end Inspection

/-- The inspections go through the guids in order, one for each.  An exchange that `stops` them is
the last one; without such an exchange nothing is left to be asked. -/
structure Inspects (stops : Exchange → Prop) (guids : List String) (inspections : List Inspection)
    (log : List Exchange) : Prop where
  ordered : inspections.map Inspection.guid <+: guids
  stopsLast : log.Pairwise fun earlier _ => ¬ stops earlier
  complete : (∀ e ∈ log, ¬ stops e) →
    inspections.map Inspection.guid = guids ∧ ∀ i ∈ inspections, i.IsOver

namespace Inspects

variable {stops : Exchange → Prop} {guids : List String} {inspections : List Inspection}
  {log : List Exchange}

/-- All guids have been gone through, and nothing has stopped the inspections. -/
lemma of_helped (hguids : inspections.map Inspection.guid = guids)
    (hover : ∀ i ∈ inspections, i.IsOver) (hlog : ∀ e ∈ log, ¬ stops e) :
    Inspects stops guids inspections log where
  ordered := hguids ▸ List.prefix_rfl
  stopsLast := List.pairwise_of_forall_mem_list fun e he _ _ => hlog e he
  complete := fun _ => ⟨hguids, hover⟩

/-- The last exchange has stopped the inspections. -/
lemma of_stopped (earlier : List Exchange) {last : Exchange}
    (hguids : inspections.map Inspection.guid <+: guids) (hearlier : ∀ e ∈ earlier, ¬ stops e)
    (hlast : stops last) : Inspects stops guids inspections (earlier ++ [last]) where
  ordered := hguids
  stopsLast := List.pairwise_append.mpr
    ⟨List.pairwise_of_forall_mem_list fun e he _ _ => hearlier e he, List.pairwise_singleton _ _,
      fun e he _ _ => hearlier e he⟩
  complete := fun h => absurd hlast (h last (List.mem_append_right _ List.mem_cons_self))

/-- An inspection that is over may come before others. -/
lemma cons {i : Inspection} (earlier : List Exchange) (hover : i.IsOver)
    (hearlier : ∀ e ∈ earlier, ¬ stops e) (h : Inspects stops guids inspections log) :
    Inspects stops (i.guid :: guids) (i :: inspections) (earlier ++ log) where
  ordered := List.prefix_cons_inj _ |>.mpr h.ordered
  stopsLast := List.pairwise_append.mpr
    ⟨List.pairwise_of_forall_mem_list fun e he _ _ => hearlier e he, h.stopsLast,
      fun e he _ _ => hearlier e he⟩
  complete := by
    intro hall
    obtain ⟨hguids, hothers⟩ := h.complete fun e he => hall e (List.mem_append_right _ he)
    exact ⟨congrArg (i.guid :: ·) hguids, List.forall_mem_cons.mpr ⟨hover, hothers⟩⟩

end Inspects

/-- How a log of the guard begins: with the service token, and if there is one, with the lookup of
the apps that carries it.  Only if that is answered, something follows. -/
inductive Opening (apps : String → Lookup)
    (rest : (token : String) → (apps token).Value → List Exchange → Prop) :
    List Exchange → Prop where
  | tokenless {cause : LookupFault} : Opening apps rest [⟨.serviceToken, Except.error cause⟩]
  | appless {token : String} {cause : LookupFault} :
      Opening apps rest [⟨.serviceToken, Except.ok token⟩, ⟨apps token, Except.error cause⟩]
  | opened {token : String} {value : (apps token).Value} {later : List Exchange}
      (h : rest token value later) :
      Opening apps rest (⟨.serviceToken, Except.ok token⟩ :: ⟨apps token, Except.ok value⟩ :: later)

/-- If neither the token nor the apps stop the guard when they come, what stops it comes last. -/
lemma Opening.pairwise {apps : String → Lookup}
    {rest : (token : String) → (apps token).Value → List Exchange → Prop} {stops : Exchange → Prop}
    {log : List Exchange} (h : Opening apps rest log)
    (htoken : ∀ token : String, ¬ stops ⟨.serviceToken, Except.ok token⟩)
    (happs : ∀ token value, ¬ stops ⟨apps token, Except.ok value⟩)
    (hrest : ∀ token value later, rest token value later →
      later.Pairwise fun earlier _ => ¬ stops earlier) :
    log.Pairwise fun earlier _ => ¬ stops earlier := by
  cases h with
  | tokenless => exact List.pairwise_singleton _ _
  | appless =>
      exact List.pairwise_cons.mpr ⟨fun _ _ => htoken _, List.pairwise_singleton _ _⟩
  | opened h =>
      exact List.pairwise_cons.mpr ⟨fun _ _ => htoken _,
        List.pairwise_cons.mpr ⟨fun _ _ => happs _ _, hrest _ _ _ h⟩⟩

namespace Guard

variable {α : Type} {token user : String}

/-- An exchange at which a decision stops: it has failed, or it has denied something. -/
def Stops (e : Exchange) : Prop := e.Fails ∨ e.Denies

/-- Inspections of distinct guids, with all spaces looked up before the first membership: if one is
asked for at all, every space has been looked up.  No membership is passed over. -/
inductive SpacesFirst (token user : String) (guids : List String) : List Exchange → Prop where
  | intro {inspections : List Inspection} (hdistinct : (inspections.map Inspection.guid).Nodup)
      (hentered : inspections.Pairwise fun i j => j.isEntered = true → i.isEntered = true)
      (hinspects : Inspects Stops guids inspections (inspections.map (·.spaceExchange token) ++
        inspections.flatMap (·.memberExchanges token user)))
      (hsought : inspections.flatMap (·.memberExchanges token user) ≠ [] →
        inspections.map Inspection.guid = guids) :
      SpacesFirst token user guids (inspections.map (·.spaceExchange token) ++
        inspections.flatMap (·.memberExchanges token user))

/-- Inspections of distinct guids, one after the other, each of them over before the next. -/
inductive SpaceBySpace (token user : String) (guids : List String) : List Exchange → Prop where
  | intro {inspections : List Inspection} (hdistinct : (inspections.map Inspection.guid).Nodup)
      (hover : inspections.Pairwise fun i _ => i.IsOver)
      (hinspects : Inspects Exchange.Fails guids inspections
        (inspections.flatMap (·.exchanges token user))) :
      SpaceBySpace token user guids (inspections.flatMap (·.exchanges token user))

/-- The lookups of a decision about a batch. -/
structure DecisionLog (batch : List Policy) (caller : Claims) (log : List Exchange) : Prop where
  admin : caller.isAdmin = true → log = []
  opening : caller.isAdmin = false → Opening (.spaceGuids · (appsOf batch))
    (fun token guids => SpacesFirst token caller.userId (List.eraseDups guids)) log
  /-- Nothing follows a lookup that fails, that does not find a space or that finds no member. -/
  stopsLast : log.Pairwise fun earlier _ => ¬ Stops earlier

/-- The lookups of a listing of policies. -/
structure ListingLog (policies : List Policy) (caller : Claims) (log : List Exchange) : Prop where
  free : caller.isAdmin = true ∨ policies = [] → log = []
  opening : caller.isAdmin = false → policies ≠ [] → Opening (.appSpaces · (appsOf policies))
    (fun token appSpaces =>
      SpaceBySpace token caller.userId (List.eraseDups (List.map Prod.snd appSpaces))) log
  /-- Nothing follows a lookup that fails. -/
  failsLast : log.Pairwise fun earlier _ => ¬ earlier.Fails

/-! ## Openings -/

/-- The guard opens with its token and the apps, and goes on as it does. -/
lemma opening_of_logs {apps : String → Lookup}
    {f : (token : String) → (apps token).Value → Action α}
    {rest : (token : String) → (apps token).Value → List Exchange → Prop} {log : List Exchange}
    {result : Except AccessError α}
    (h : Action.Logs (look .serviceToken .serviceToken >>= fun token : String =>
      look (apps token) .spaceGuids >>= f token) log result)
    (hrest : ∀ token value later, (f token value).Logs later result → rest token value later) :
    Opening apps rest log := by
  obtain ⟨token, others, rfl, hothers⟩ | ⟨cause, rfl, -⟩ := logs_look_bind.mp h
  · obtain ⟨value, later, rfl, hlater⟩ | ⟨cause, rfl, -⟩ := logs_look_bind.mp hothers
    · exact .opened (hrest token value later hlater)
    · exact .appless
  · exact .tokenless

/-! ## Decisions -/

section Decisions

lemma not_stops_of_mem_foundSpaces (spaces : List (String × Space)) :
    ∀ e ∈ spaces.map (foundSpace token), ¬ Stops e := by
  refine List.forall_mem_map.mpr fun entry _ => ?_
  rintro (⟨cause, ⟨⟩⟩ | h)
  rw [foundSpace] at h
  cases h

lemma not_stops_of_mem_foundMembers (joined : List ((String × Space) × Space)) :
    ∀ e ∈ joined.map (foundMember token user), ¬ Stops e := by
  refine List.forall_mem_map.mpr fun entry _ => ?_
  rintro (⟨cause, ⟨⟩⟩ | h)
  rw [foundMember] at h
  cases h

/-- Spaces that were found and not entered. -/
def seeking (spaces : List (String × Space)) : List Inspection :=
  spaces.map fun entry => .sought entry.1 (.ok (some entry.2))

/-- Spaces that were found to have the user as a member. -/
def entering (joined : List ((String × Space) × Space)) : List Inspection :=
  joined.map fun entry => .entered entry.1.1 entry.1.2 (.ok (some entry.2))

@[simp] lemma map_guid_seeking (spaces : List (String × Space)) :
    (seeking spaces).map Inspection.guid = spaces.map Prod.fst := List.map_map

@[simp] lemma map_spaceExchange_seeking (spaces : List (String × Space)) :
    (seeking spaces).map (·.spaceExchange token) = spaces.map (foundSpace token) := List.map_map

@[simp] lemma flatMap_memberExchanges_seeking (spaces : List (String × Space)) :
    (seeking spaces).flatMap (·.memberExchanges token user) = [] := by
  simp [seeking, List.flatMap_map]

@[simp] lemma map_guid_entering (joined : List ((String × Space) × Space)) :
    (entering joined).map Inspection.guid = (joined.map Prod.fst).map Prod.fst := by
  simp [entering]

@[simp] lemma map_spaceExchange_entering (joined : List ((String × Space) × Space)) :
    (entering joined).map (·.spaceExchange token)
      = (joined.map Prod.fst).map (foundSpace token) := by
  simp [entering, foundSpace]

@[simp] lemma flatMap_memberExchanges_entering (joined : List ((String × Space) × Space)) :
    (entering joined).flatMap (·.memberExchanges token user)
      = joined.map (foundMember token user) := by
  rw [entering, List.flatMap_map, List.map_eq_flatMap]
  rfl

lemma isOver_of_mem_entering {joined : List ((String × Space) × Space)} :
    ∀ i ∈ entering joined, i.IsOver := by
  intro i hi
  obtain ⟨entry, -, rfl⟩ := List.mem_map.mp hi
  exact .entered

lemma isEntered_of_mem_entering {joined : List ((String × Space) × Space)} :
    ∀ i ∈ entering joined, i.isEntered = true := by
  intro i hi
  obtain ⟨entry, -, rfl⟩ := List.mem_map.mp hi
  rfl

lemma isEntered_of_mem_seeking {spaces : List (String × Space)} :
    ∀ i ∈ seeking spaces, i.isEntered = false := by
  intro i hi
  obtain ⟨entry, -, rfl⟩ := List.mem_map.mp hi
  rfl

/-- No membership is passed over if the spaces that were entered stand in front of the others. -/
lemma pairwise_isEntered {front behind : List Inspection}
    (hfront : ∀ i ∈ front, i.isEntered = true) (hbehind : ∀ i ∈ behind, i.isEntered = false) :
    (front ++ behind).Pairwise fun i j => j.isEntered = true → i.isEntered = true := by
  refine List.pairwise_append.mpr ⟨?_, ?_, fun i hi _ _ _ => hfront i hi⟩
  · exact List.pairwise_of_forall_mem_list fun i hi _ _ _ => hfront i hi
  · exact List.pairwise_of_forall_mem_list fun _ _ j hj h =>
      absurd h (Bool.eq_false_iff.mp (hbehind j hj))

lemma SpacesFirst.of_inspects {guids : List String} {log : List Exchange}
    (inspections : List Inspection) (hguids : guids.Nodup)
    (hentered : inspections.Pairwise fun i j => j.isEntered = true → i.isEntered = true)
    (hlog : log = inspections.map (·.spaceExchange token) ++
      inspections.flatMap (·.memberExchanges token user))
    (hinspects : Inspects Stops guids inspections log)
    (hsought : inspections.flatMap (·.memberExchanges token user) ≠ [] →
      inspections.map Inspection.guid = guids) : SpacesFirst token user guids log := by
  subst hlog
  exact .intro (hguids.sublist hinspects.ordered.sublist) hentered hinspects hsought

/-- If a space stops the decision, no membership is asked for. -/
lemma SpacesFirst.of_sought {guid : String} {later : List String} {spaces : List (String × Space)}
    {answer : Except LookupFault (Option Space)}
    (hguids : (spaces.map Prod.fst ++ guid :: later).Nodup)
    (hstop : Stops ⟨.space token guid, answer⟩) :
    SpacesFirst token user (spaces.map Prod.fst ++ guid :: later)
      (spaces.map (foundSpace token) ++ [⟨.space token guid, answer⟩]) := by
  have hwaiting : ∀ i ∈ seeking spaces ++ [.sought guid answer], i.isEntered = false :=
    List.forall_mem_append.mpr
      ⟨isEntered_of_mem_seeking, List.forall_mem_singleton.mpr rfl⟩
  refine .of_inspects (seeking spaces ++ [.sought guid answer]) hguids
    (@pairwise_isEntered [] _ (List.forall_mem_nil _) hwaiting) (by simp) ?_ (by simp)
  exact .of_stopped _ (by simp) (not_stops_of_mem_foundSpaces spaces) hstop

/-- If all spaces have been found, the memberships in them are asked for. -/
lemma SpacesFirst.of_joining {spaces : List (String × Space)} {log : List Exchange}
    {result : Except AccessError Bool} (hguids : (spaces.map Prod.fst).Nodup)
    (h : Action.Logs (isMemberOfAll token user spaces) log result) :
    SpacesFirst token user (spaces.map Prod.fst) (spaces.map (foundSpace token) ++ log) := by
  obtain ⟨joined, hends⟩ := logs_isMemberOfAll h
  have hearlier : ∀ e ∈ spaces.map (foundSpace token) ++ joined.map (foundMember token user),
      ¬ Stops e := List.forall_mem_append.mpr
    ⟨not_stops_of_mem_foundSpaces spaces, not_stops_of_mem_foundMembers joined⟩
  obtain ⟨rfl, rfl, rfl⟩ | ⟨guid, space, later, answer, rfl, rfl, hstop⟩ := hends
  · refine .of_inspects (entering joined) hguids ?_ (by simp)
      (.of_helped (by simp) isOver_of_mem_entering hearlier) (by simp)
    rw [← List.append_nil (entering joined)]
    exact pairwise_isEntered isEntered_of_mem_entering (List.forall_mem_nil _)
  · -- the spaces behind the last membership have been found, and are not entered
    refine .of_inspects (entering joined ++ .entered guid space answer :: seeking later)
      hguids ?_ ?_ ?_ ?_
    · rw [List.append_cons]
      exact pairwise_isEntered (List.forall_mem_append.mpr
        ⟨isEntered_of_mem_entering, List.forall_mem_singleton.mpr rfl⟩) isEntered_of_mem_seeking
    · simp [foundSpace]
    · rw [← List.append_assoc]
      refine .of_stopped _ (by simp) hearlier ?_
      obtain ⟨rfl, -⟩ | ⟨cause, rfl, -⟩ := hstop
      · exact .inr .stranger
      · exact .inl ⟨cause, rfl⟩
    · simp

/-- A decision looks the spaces up and then, if all of them exist, the memberships. -/
lemma logs_decide {guids : List String} {log : List Exchange} {result : Except AccessError Bool}
    (hguids : guids.Nodup) (h : Action.Logs (fetchSpaces token guids >>= fun found =>
      found.elim (return false) (isMemberOfAll token user)) log result) :
    SpacesFirst token user guids log := by
  obtain ⟨fetching, joining, found, rfl, hfetching, hjoining⟩ | ⟨e, hfetching, rfl⟩ :=
    logs_action_bind.mp h
  · obtain ⟨spaces, ⟨rfl, rfl, ⟨⟩⟩ | ⟨guid, later, answer, rfl, rfl, ⟨rfl, ⟨⟩⟩ | ⟨_, _, ⟨⟩⟩⟩⟩ :=
      logs_fetchSpaces hfetching
    · exact .of_joining hguids hjoining
    · obtain ⟨rfl, rfl⟩ := logs_pure.mp hjoining
      rw [List.append_nil]
      exact .of_sought hguids (.inr .missing)
  · obtain ⟨spaces, ⟨_, _, ⟨⟩⟩ | ⟨guid, later, answer, rfl, rfl, ⟨_, ⟨⟩⟩ | ⟨cause, rfl, ⟨⟩⟩⟩⟩ :=
      logs_fetchSpaces hfetching
    exact .of_sought hguids (.inl ⟨cause, rfl⟩)

end Decisions

/-! ## Listings -/

/-- What is done with a result in the end takes no lookup. -/
lemma logs_of_bind_pure {β : Type} {x : Action α} {f : α → β} {log : List Exchange}
    {result : Except AccessError β} (h : Action.Logs (x >>= fun a => pure (f a)) log result) :
    ∃ result', x.Logs log result' := by
  obtain ⟨earlier, later, a, rfl, hx, hlast⟩ | ⟨e, hx, -⟩ := logs_action_bind.mp h
  · obtain ⟨rfl, -⟩ := logs_pure.mp hlast
    exact ⟨_, by rwa [List.append_nil]⟩
  · exact ⟨_, hx⟩

/-- Each space is looked up and then, if it exists, the membership in it, until a lookup fails. -/
lemma logs_memberSpaces : ∀ {guids : List String} {log : List Exchange}
    {result : Except AccessError (List String)}, (memberSpaces token user guids).Logs log result →
    ∃ inspections : List Inspection, log = inspections.flatMap (·.exchanges token user) ∧
      inspections.Pairwise (fun i _ => i.IsOver) ∧ Inspects Exchange.Fails guids inspections log
  | [], log, result, h => by
      obtain ⟨rfl, -⟩ := logs_pure.mp h
      exact ⟨[], rfl, .nil, .of_helped rfl (List.forall_mem_nil _) (List.forall_mem_nil _)⟩
  | guid :: guids, log, result, h => by
      obtain ⟨found, rest, rfl, hrest⟩ | ⟨cause, rfl, -⟩ := logs_look_bind.mp h
      · cases found with
        | none =>
            obtain ⟨inspections, rfl, hover, hothers⟩ := logs_memberSpaces hrest
            refine ⟨.sought guid (.ok none) :: inspections, rfl,
              List.pairwise_cons.mpr ⟨fun _ _ => .missing, hover⟩, ?_⟩
            exact hothers.cons [_] .missing (List.forall_mem_singleton.mpr Exchange.not_fails_ok)
        | some space =>
            obtain ⟨member, later, rfl, hlater⟩ | ⟨cause, rfl, -⟩ := logs_look_bind.mp hrest
            · obtain ⟨others, hlogs⟩ :
                  ∃ others, (memberSpaces token user guids).Logs later others := by
                cases member with
                | none => exact ⟨_, hlater⟩
                | some _ => exact logs_of_bind_pure hlater
              obtain ⟨inspections, rfl, hover, hothers⟩ := logs_memberSpaces hlogs
              refine ⟨.entered guid space (.ok member) :: inspections, rfl,
                List.pairwise_cons.mpr ⟨fun _ _ => .entered, hover⟩, ?_⟩
              exact hothers.cons [_, _] .entered (List.forall_mem_cons.mpr
                ⟨Exchange.not_fails_ok, List.forall_mem_singleton.mpr Exchange.not_fails_ok⟩)
            · exact ⟨[.entered guid space (.error cause)], rfl, List.pairwise_singleton _ _,
                .of_stopped [_] (List.prefix_append [guid] guids)
                (List.forall_mem_singleton.mpr Exchange.not_fails_ok) ⟨cause, rfl⟩⟩
      · exact ⟨[.sought guid (.error cause)], rfl, List.pairwise_singleton _ _,
          .of_stopped [] (List.prefix_append [guid] guids) (List.forall_mem_nil _) ⟨cause, rfl⟩⟩

/-! ## Every run -/

lemma decisionLog_of_logs {batch : List Policy} {caller : Claims} {log : List Exchange}
    {result : Except AccessError Bool} (h : (check batch caller).Logs log result) :
    DecisionLog batch caller log := by
  cases hcaller : caller.isAdmin with
  | true =>
      rw [check, hcaller] at h
      obtain ⟨rfl, -⟩ := logs_pure.mp h
      exact ⟨fun _ => rfl, fun hnot => absurd hcaller (Bool.eq_false_iff.mp hnot), .nil⟩
  | false =>
      rw [check_of_isAdmin_eq_false hcaller] at h
      have hopening : Opening (.spaceGuids · (appsOf batch)) (fun token guids =>
          SpacesFirst token caller.userId (List.eraseDups guids)) log :=
        opening_of_logs h fun _ _ _ hlater => logs_decide (nodup_eraseDups _) hlater
      refine ⟨fun hadmin => absurd hadmin (Bool.eq_false_iff.mp hcaller), fun _ => hopening,
        hopening.pairwise ?_ ?_ ?_⟩
      · exact fun token => not_or.mpr
          ⟨Exchange.not_fails_ok, Exchange.not_denies_serviceToken⟩
      · exact fun token guids => not_or.mpr
          ⟨Exchange.not_fails_ok, Exchange.not_denies_spaceGuids⟩
      · rintro token guids later ⟨-, -, hinspects, -⟩
        exact hinspects.stopsLast

lemma visible_of_free {policies : List Policy} {caller : Claims}
    (h : caller.isAdmin = true ∨ policies = []) : visible policies caller = pure policies := by
  have hfree : (caller.isAdmin || policies.isEmpty) = true := by
    rwa [Bool.or_eq_true, List.isEmpty_iff]
  rw [visible, hfree]
  rfl

lemma listingLog_of_logs {policies : List Policy} {caller : Claims} {log : List Exchange}
    {result : Except AccessError (List Policy)} (h : (visible policies caller).Logs log result) :
    ListingLog policies caller log := by
  by_cases hfree : caller.isAdmin = true ∨ policies = []
  · rw [visible_of_free hfree] at h
    obtain ⟨rfl, -⟩ := logs_pure.mp h
    refine ⟨fun _ => rfl, fun hcaller hpolicies => absurd hfree ?_, .nil⟩
    exact not_or.mpr ⟨Bool.not_eq_true _ ▸ hcaller, hpolicies⟩
  · obtain ⟨hcaller, hpolicies⟩ := not_or.mp hfree
    rw [visible_of_isAdmin_eq_false (Bool.not_eq_true _ ▸ hcaller) hpolicies] at h
    have hopening : Opening (.appSpaces · (appsOf policies)) (fun token appSpaces =>
        SpaceBySpace token caller.userId (List.eraseDups (List.map Prod.snd appSpaces))) log := by
      refine opening_of_logs h fun token appSpaces later hlater => ?_
      obtain ⟨result', hmembers⟩ := logs_of_bind_pure hlater
      obtain ⟨inspections, rfl, hover, hinspects⟩ := logs_memberSpaces hmembers
      exact .intro ((nodup_eraseDups _).sublist hinspects.ordered.sublist) hover hinspects
    refine ⟨fun hnone => absurd hnone hfree, fun _ _ => hopening, hopening.pairwise ?_ ?_ ?_⟩
    · exact fun token => Exchange.not_fails_ok
    · exact fun token appSpaces => Exchange.not_fails_ok
    · rintro token appSpaces later ⟨-, -, hinspects⟩
      exact hinspects.stopsLast

/-- **The guard asks no more than it needs, each thing once and in order.**  Whoever answers, and
however the answers may change meanwhile, the lookups of a decision and those of a listing begin
with the service token and one lookup of the distinct apps, and go on with the distinct spaces in
the order in which they first came back.  The apps are the ones that the policies name, source
before destination, each once and in the order in which they first appear; the spaces are in that
order too. -/
theorem lookups_once_in_order {σ : Type} (ask : (q : Lookup) → StateM σ q.Answer) (start : σ)
    (policies : List Policy) (caller : Claims) :
    FirstSeen (policies.flatMap fun p => [p.source, p.destination.id]) (appsOf policies) ∧
    (∀ guids : List String, FirstSeen guids guids.eraseDups) ∧
    (∃ decided log, ((check policies caller).run.runM ask).run' start = decided ∧
      ((check policies caller).run.logged ask).run' start = (decided, log) ∧
      DecisionLog policies caller log) ∧
    ∃ listed log, ((visible policies caller).run.runM ask).run' start = listed ∧
      ((visible policies caller).run.logged ask).run' start = (listed, log) ∧
      ListingLog policies caller log := by
  have hdecided := congrArg (·.run' start) ((check policies caller).run.fst_logged ask)
  have hlisted := congrArg (·.run' start) ((visible policies caller).run.fst_logged ask)
  exact ⟨firstSeen_eraseDups _, firstSeen_eraseDups,
    ⟨_, _, hdecided.symm, rfl, decisionLog_of_logs (Program.logs_logged _ ask start)⟩,
    ⟨_, _, hlisted.symm, rfl, listingLog_of_logs (Program.logs_logged _ ask start)⟩⟩

/-- A decision about two policies looks both spaces up first.  A listing of them is done with a
space that the developer is no member of, and goes on. -/
example :
    (check [connection "web" "db", connection "api" "web"] developer).run.trace
        pairedPlatform.answer
      = [.serviceToken, .spaceGuids "service-token" ["web", "db", "api"],
        .space "service-token" "space-1", .space "service-token" "space-2",
        .userSpace "service-token" "dev" ⟨"one", "org"⟩,
        .userSpace "service-token" "dev" ⟨"two", "org"⟩] ∧
    (visible [connection "db" "web", connection "api" "web"] developer).run.trace
        pairedPlatform.answer
      = [.serviceToken, .appSpaces "service-token" ["db", "web", "api"],
        .space "service-token" "space-2", .userSpace "service-token" "dev" ⟨"two", "org"⟩,
        .space "service-token" "space-1", .userSpace "service-token" "dev" ⟨"one", "org"⟩] := by
  decide

end Guard

end NetworkPolicy
