import Mathlib
import NetworkPolicy.Proofs.Access.Agreement
import NetworkPolicy.Proofs.Access.Turns

/-!
# Deciding over a network that may fail

What the guard decides about a batch can be read off its turns, whatever the network does.

**The guard.**  Each loop of the guard goes on as long as replies help (`Fetched`, `Joined`), so at
most its last turn is a denial or a failure: `course_fetchSpaces`, `course_isMemberOfAll`,
`course_check`.  What the loops do is known from their logs; here the replies are put in for the
answers.

**The decision.**  A batch is granted only if every single reply helps, a denial takes a reply that
says so, and everything else is an error that names the request that failed:
`check_fails_closed`.
-/

namespace NetworkPolicy

variable {σ α β : Type}

namespace Guard

open Remote

/-! ## Replies that help -/

section Loops

variable {token user : String} {turns : List Turn}

/-- The space of a guid has come back. -/
def Fetched (token : String) (entry : String × Space) (turn : Turn) : Prop :=
  ∃ reply, turn = ⟨.space token entry.1, some reply⟩ ∧ Spells Wire.spaceResource reply entry.2

/-- The one space in the page that has come back makes the user a member. -/
def Joined (token user : String) (entry : String × Space) (turn : Turn) : Prop :=
  ∃ reply found, turn = ⟨.userSpace token user entry.2, some reply⟩ ∧
    Spells Wire.spacePage reply [found]

lemma fetched_of_exchange (entry : String × Space) (turn : Turn)
    (h : turn.exchange = foundSpace token entry) : Fetched token entry turn := by
  obtain ⟨_, rfl, hread⟩ := Turn.exchange_eq_iff.mp h
  obtain ⟨reply, rfl, hspells⟩ := readOrFail_space_eq_some_iff.mp hread
  exact ⟨reply, rfl, hspells⟩

lemma joined_of_exchange (entry : (String × Space) × Space) (turn : Turn)
    (h : turn.exchange = foundMember token user entry) : Joined token user entry.1 turn := by
  obtain ⟨_, rfl, hread⟩ := Turn.exchange_eq_iff.mp h
  obtain ⟨reply, rfl, hspells⟩ := readOrFail_userSpace_eq_some_iff.mp hread
  exact ⟨reply, entry.2, rfl, hspells⟩

/-- The spaces of the guids are fetched one after the other, until one of them does not exist or
cannot be fetched. -/
lemma course_fetchSpaces {guids : List String}
    {result : Except AccessError (Option (List (String × Space)))}
    (h : (fetchSpaces token guids).Course turns result) : ∃ spaces fetched,
      List.Forall₂ (Fetched token) spaces fetched ∧
      ((spaces.map Prod.fst = guids ∧ turns = fetched ∧ result = .ok (some spaces)) ∨
        ∃ guid later reply, guids = spaces.map Prod.fst ++ guid :: later ∧
          turns = fetched ++ [⟨.space token guid, reply⟩] ∧
          ((∃ r, reply = some r ∧ r.status = 404) ∧ result = .ok none ∨
            ∃ cause, Failed (.space token guid) reply cause ∧
              result = .error (.space guid cause))) := by
  obtain ⟨spaces, ⟨hguids, hlog, rfl⟩ | ⟨guid, later, answer, hguids, hlog, hstop⟩⟩ :=
    logs_fetchSpaces (Program.course_iff_logs.mp h)
  · exact ⟨spaces, turns, Turn.forall₂_of_map_exchange fetched_of_exchange hlog,
      .inl ⟨hguids, rfl, rfl⟩⟩
  · obtain ⟨fetched, last, rfl, hfetched, hlast⟩ := List.map_eq_append_iff.mp hlog
    obtain ⟨turn, rfl, hturn⟩ := List.map_eq_singleton_iff.mp hlast
    obtain ⟨reply, rfl, rfl⟩ := Turn.exchange_eq_iff.mp hturn
    refine ⟨spaces, fetched, Turn.forall₂_of_map_exchange fetched_of_exchange hfetched,
      .inr ⟨guid, later, reply, hguids, rfl, ?_⟩⟩
    exact hstop.imp (And.imp_left readOrFail_space_eq_none_iff.mp)
      (Exists.imp fun _ => And.imp_left readOrFail_eq_error_iff.mp)

/-- The memberships are asked for one after the other, until the user is no member of a space or one
of them cannot be told. -/
lemma course_isMemberOfAll {spaces : List (String × Space)} {result : Except AccessError Bool}
    (h : (isMemberOfAll token user spaces).Course turns result) : ∃ earlier joined,
      List.Forall₂ (Joined token user) earlier joined ∧
      ((earlier = spaces ∧ turns = joined ∧ result = .ok true) ∨
        ∃ guid space later reply, spaces = earlier ++ (guid, space) :: later ∧
          turns = joined ++ [⟨.userSpace token user space, reply⟩] ∧
          ((∃ r, reply = some r ∧ Spells Wire.spacePage r []) ∧ result = .ok false ∨
            ∃ cause, Failed (.userSpace token user space) reply cause ∧
              result = .error (.space guid cause))) := by
  have hjoin : ∀ {members : List ((String × Space) × Space)} {joined : List Turn},
      joined.map Turn.exchange = members.map (foundMember token user) →
      List.Forall₂ (Joined token user) (members.map Prod.fst) joined := fun hlog =>
    List.forall₂_map_left_iff.mpr (Turn.forall₂_of_map_exchange joined_of_exchange hlog)
  obtain ⟨members, ⟨hspaces, hlog, rfl⟩ | ⟨guid, space, later, answer, hspaces, hlog, hstop⟩⟩ :=
    logs_isMemberOfAll (Program.course_iff_logs.mp h)
  · exact ⟨members.map Prod.fst, turns, hjoin hlog, .inl ⟨hspaces, rfl, rfl⟩⟩
  · obtain ⟨joined, last, rfl, hjoined, hlast⟩ := List.map_eq_append_iff.mp hlog
    obtain ⟨turn, rfl, hturn⟩ := List.map_eq_singleton_iff.mp hlast
    obtain ⟨reply, rfl, rfl⟩ := Turn.exchange_eq_iff.mp hturn
    refine ⟨members.map Prod.fst, joined, hjoin hjoined,
      .inr ⟨guid, space, later, reply, hspaces, rfl, ?_⟩⟩
    exact hstop.imp (And.imp_left readOrFail_userSpace_eq_none_iff.mp)
      (Exists.imp fun _ => And.imp_left readOrFail_eq_error_iff.mp)

end Loops

/-! ## The course of a decision -/

/-- The server has got its token, and with it the guids of the spaces of the batch's apps. -/
inductive Opened (batch : List Policy) (token : String) (guids : List String) :
    List Turn → Prop where
  | intro {tokenReply appsReply : Reply} {pairs : List (String × String)}
      (htoken : Spells Wire.token tokenReply token) (happs : Spells Wire.apps appsReply pairs)
      (hguids : (pairs.map Prod.snd).eraseDups = guids) :
      Opened batch token guids [⟨.serviceToken, some tokenReply⟩,
        ⟨.spaceGuids token (appsOf batch), some appsReply⟩]

/-- Every turn has helped: the token and the apps have come back, and for each guid of a space the
space itself, and a page on which it alone makes the user a member. -/
inductive Granted (batch : List Policy) (user : String) : List Turn → Prop where
  | intro {token : String} {guids : List String} {spaces : List (String × Space)}
      {opening fetched joined : List Turn} (hopening : Opened batch token guids opening)
      (hspaces : spaces.map Prod.fst = guids)
      (hfetched : List.Forall₂ (Fetched token) spaces fetched)
      (hjoined : List.Forall₂ (Joined token user) spaces joined) :
      Granted batch user (opening ++ fetched ++ joined)

/-- The turn denies something: a space does not exist, or the page of the user's spaces is empty. -/
inductive Denies : Turn → Prop where
  | missing {token guid : String} {reply : Reply} (hstatus : reply.status = 404) :
      Denies ⟨.space token guid, some reply⟩
  | stranger {token user : String} {space : Space} {reply : Reply}
      (hpage : Spells Wire.spacePage reply []) : Denies ⟨.userSpace token user space, some reply⟩

/-- All turns but the last have helped, and the last one has failed.  The error names what it asked
for: the token, the apps, or the guid of the space. -/
inductive Broken (batch : List Policy) (user : String) : List Turn → AccessError → Prop where
  | serviceToken {reply : Option Reply} {cause : LookupFault}
      (h : Failed .serviceToken reply cause) :
      Broken batch user [⟨.serviceToken, reply⟩] (.serviceToken cause)
  | spaceGuids {token : String} {tokenReply : Reply} {reply : Option Reply} {cause : LookupFault}
      (htoken : Spells Wire.token tokenReply token)
      (h : Failed (.spaceGuids token (appsOf batch)) reply cause) :
      Broken batch user
        [⟨.serviceToken, some tokenReply⟩, ⟨.spaceGuids token (appsOf batch), reply⟩]
        (.spaceGuids cause)
  | space {token guid : String} {guids later : List String} {spaces : List (String × Space)}
      {opening fetched : List Turn} {reply : Option Reply} {cause : LookupFault}
      (hopening : Opened batch token guids opening)
      (hguids : guids = spaces.map Prod.fst ++ guid :: later)
      (hfetched : List.Forall₂ (Fetched token) spaces fetched)
      (h : Failed (.space token guid) reply cause) :
      Broken batch user (opening ++ fetched ++ [⟨.space token guid, reply⟩]) (.space guid cause)
  | userSpace {token guid : String} {guids : List String} {space : Space}
      {earlier later : List (String × Space)} {opening fetched joined : List Turn}
      {reply : Option Reply} {cause : LookupFault} (hopening : Opened batch token guids opening)
      (hspaces : (earlier ++ (guid, space) :: later).map Prod.fst = guids)
      (hfetched : List.Forall₂ (Fetched token) (earlier ++ (guid, space) :: later) fetched)
      (hjoined : List.Forall₂ (Joined token user) earlier joined)
      (h : Failed (.userSpace token user space) reply cause) :
      Broken batch user (opening ++ fetched ++ joined ++ [⟨.userSpace token user space, reply⟩])
        (.space guid cause)

/-- A turn that neither denies anything nor fails. -/
structure Helps (turn : Turn) : Prop where
  not_denies : ¬ Denies turn
  not_failed : ∀ cause, ¬ Failed turn.lookup turn.reply cause

lemma not_denies_of_failed {q : Lookup} {reply : Option Reply} {cause : LookupFault}
    (h : Failed q reply cause) : ¬ Denies ⟨q, reply⟩ := by
  rintro (hstatus | hpage)
  · cases h with
    | space hthere _ => exact hthere hstatus
  · cases h with
    | userSpace hrefused => exact hpage.not_refused hrefused
    | severalSpaces hseveral => cases Except.ok.inj (hpage.body.symm.trans hseveral.body)

section Helping

variable {token user : String} {entry : String × Space} {turn : Turn} {turns : List Turn}

lemma Fetched.helps (h : Fetched token entry turn) : Helps turn := by
  obtain ⟨reply, rfl, hspells⟩ := h
  constructor
  · rintro ⟨hstatus⟩
    have hsuccess := hspells.success
    omega
  · rintro cause ⟨⟩
    exact hspells.not_refused ‹_›

lemma Joined.helps (h : Joined token user entry turn) : Helps turn := by
  obtain ⟨reply, found, rfl, hspells⟩ := h
  constructor
  · rintro ⟨⟩
    cases Except.ok.inj (hspells.body.symm.trans (Spells.body ‹_›))
  · rintro cause (_ | _)
    · exact hspells.not_refused ‹_›
    · cases Except.ok.inj (hspells.body.symm.trans (Spells.body ‹_›))

lemma helps_of_forall₂ {R : String × Space → Turn → Prop}
    (hR : ∀ entry turn, R entry turn → Helps turn) {entries : List (String × Space)}
    (h : List.Forall₂ R entries turns) : ∀ turn ∈ turns, Helps turn := by
  induction h with
  | nil => exact fun _ hturn => absurd hturn List.not_mem_nil
  | cons hentry _ ih => exact List.forall_mem_cons.mpr ⟨hR _ _ hentry, ih⟩

lemma Opened.helps {batch : List Policy} {guids : List String}
    (h : Opened batch token guids turns) : ∀ turn ∈ turns, Helps turn := by
  obtain ⟨htoken, happs, -⟩ := h
  refine List.forall_mem_cons.mpr ⟨⟨nofun, ?_⟩, List.forall_mem_singleton.mpr ⟨nofun, ?_⟩⟩
  · rintro cause ⟨⟩
    exact htoken.not_refused ‹_›
  · rintro cause ⟨⟩
    exact happs.not_refused ‹_›

lemma Granted.helps {batch : List Policy} (h : Granted batch user turns) :
    ∀ turn ∈ turns, Helps turn := by
  obtain ⟨hopening, -, hfetched, hjoined⟩ := h
  rw [List.forall_mem_append, List.forall_mem_append]
  exact ⟨⟨hopening.helps, helps_of_forall₂ (fun _ _ => Fetched.helps) hfetched⟩,
    helps_of_forall₂ (fun _ _ => Joined.helps) hjoined⟩

/-- In turns that end with a failure nothing is denied, and not all of them help. -/
lemma Broken.split {batch : List Policy} {e : AccessError} (h : Broken batch user turns e) :
    (∀ turn ∈ turns, ¬ Denies turn) ∧
      ∃ turn ∈ turns, ∃ cause, Failed turn.lookup turn.reply cause := by
  have hlast : ∀ (earlier : List Turn) {last : Turn} {cause : LookupFault},
      (∀ turn ∈ earlier, Helps turn) → Failed last.lookup last.reply cause →
      (∀ turn ∈ earlier ++ [last], ¬ Denies turn) ∧
        ∃ turn ∈ earlier ++ [last], ∃ cause, Failed turn.lookup turn.reply cause := by
    intro earlier last cause hearlier hfailed
    refine ⟨List.forall_mem_append.mpr ⟨fun turn hturn => (hearlier turn hturn).not_denies,
      List.forall_mem_singleton.mpr (not_denies_of_failed hfailed)⟩, last, ?_, cause, hfailed⟩
    exact List.mem_append_right _ List.mem_cons_self
  cases h with
  | serviceToken h => exact hlast [] (fun _ hturn => absurd hturn List.not_mem_nil) h
  | spaceGuids htoken h =>
      refine hlast [_] (List.forall_mem_singleton.mpr ⟨nofun, ?_⟩) h
      rintro cause ⟨⟩
      exact htoken.not_refused ‹_›
  | space hopening _ hfetched h =>
      refine hlast _ (List.forall_mem_append.mpr ⟨hopening.helps, ?_⟩) h
      exact helps_of_forall₂ (fun _ _ => Fetched.helps) hfetched
  | userSpace hopening _ hfetched hjoined h =>
      refine hlast _ (List.forall_mem_append.mpr ⟨List.forall_mem_append.mpr
        ⟨hopening.helps, ?_⟩, ?_⟩) h
      · exact helps_of_forall₂ (fun _ _ => Fetched.helps) hfetched
      · exact helps_of_forall₂ (fun _ _ => Joined.helps) hjoined

end Helping

/-- Every course of a decision ends as its last turn says. -/
theorem course_check {batch : List Policy} {caller : Claims} (hcaller : caller.isAdmin = false)
    {turns : List Turn} {result : Except AccessError Bool}
    (h : (check batch caller).Course turns result) :
    result = .ok true ∧ Granted batch caller.userId turns ∨
      result = .ok false ∧ (∃ turn ∈ turns, Denies turn) ∨
      ∃ e, result = .error e ∧ Broken batch caller.userId turns e := by
  rw [check, hcaller] at h
  obtain ⟨tokenReply, later, rfl, ⟨token, htoken, hlater⟩ | ⟨cause, hfailed, rfl, rfl⟩⟩ :=
    course_look_bind h
  swap
  · exact .inr (.inr ⟨_, rfl, .serviceToken hfailed⟩)
  obtain ⟨tokenReply, rfl, hspelled⟩ := readOrFail_token_eq_ok_iff.mp htoken
  obtain ⟨appsReply, rest, rfl, ⟨guids, hguids, hrest⟩ | ⟨cause, hfailed, rfl, rfl⟩⟩ :=
    course_look_bind hlater
  swap
  · exact .inr (.inr ⟨_, rfl, .spaceGuids hspelled hfailed⟩)
  obtain ⟨appsReply, rfl, pairs, happs, rfl⟩ := readOrFail_guids_eq_ok_iff.mp hguids
  have hopening : Opened batch token _ _ := .intro hspelled happs rfl
  obtain ⟨early, late, found, rfl, hfetching, hlast⟩ | ⟨e, hfetching, rfl⟩ :=
    course_action_bind hrest
  · obtain ⟨spaces, fetched, hfetched, ⟨hspaces, rfl, hall⟩ |
      ⟨guid, others, reply, hguids, rfl, ⟨⟨r, rfl, hmissing⟩, hnone⟩ | ⟨_, _, ⟨⟩⟩⟩⟩ :=
      course_fetchSpaces hfetching
    · cases hall
      obtain ⟨earlier, joined, hjoined, ⟨rfl, rfl, rfl⟩ | ⟨guid, space, others, reply, rfl, rfl,
        ⟨⟨r, rfl, hstranger⟩, rfl⟩ | ⟨cause, hfailed, rfl⟩⟩⟩ := course_isMemberOfAll hlast
      · exact .inl ⟨rfl, .intro hopening hspaces hfetched hjoined⟩
      · refine .inr (.inl ⟨rfl, ⟨.userSpace token caller.userId space, some r⟩, ?_,
          .stranger hstranger⟩)
        simp
      · refine .inr (.inr ⟨_, rfl, ?_⟩)
        have hbroken := Broken.userSpace hopening hspaces hfetched hjoined hfailed
        simpa using hbroken
    · cases hnone
      obtain ⟨rfl, rfl⟩ := course_pure.mp hlast
      refine .inr (.inl ⟨rfl, ⟨.space token guid, some r⟩, ?_, .missing hmissing⟩)
      simp
  · obtain ⟨spaces, fetched, hfetched, ⟨_, _, ⟨⟩⟩ |
      ⟨guid, others, reply, hguids, rfl, ⟨_, ⟨⟩⟩ | ⟨cause, hfailed, ⟨⟩⟩⟩⟩ :=
      course_fetchSpaces hfetching
    exact .inr (.inr ⟨_, rfl, .space hopening hguids hfetched hfailed⟩)

/-- How a decision ends, told from its turns alone. -/
lemma decision_of_course {batch : List Policy} {caller : Claims} (hcaller : caller.isAdmin = false)
    {turns : List Turn} {result : Except AccessError Bool}
    (h : (check batch caller).Course turns result) :
    (result = .ok true ↔ Granted batch caller.userId turns) ∧
      (result = .ok false ↔ ∃ turn ∈ turns, Denies turn) ∧
      (¬ Granted batch caller.userId turns → (¬ ∃ turn ∈ turns, Denies turn) →
        ∃ e, result = .error e) ∧
      ∀ e, result = .error e → Broken batch caller.userId turns e := by
  obtain ⟨rfl, hgranted⟩ | ⟨rfl, hdenied⟩ | ⟨e, rfl, hbroken⟩ := course_check hcaller h
  · have hnone : ¬ ∃ turn ∈ turns, Denies turn :=
      fun ⟨turn, hturn, hdenies⟩ => (hgranted.helps turn hturn).not_denies hdenies
    exact ⟨iff_of_true rfl hgranted, iff_of_false nofun hnone,
      fun hnot => absurd hgranted hnot, nofun⟩
  · have hnot : ¬ Granted batch caller.userId turns := by
      rintro hgranted
      obtain ⟨turn, hturn, hdenies⟩ := hdenied
      exact (hgranted.helps turn hturn).not_denies hdenies
    exact ⟨iff_of_false nofun hnot, iff_of_true rfl hdenied,
      fun _ hnone => absurd hdenied hnone, nofun⟩
  · obtain ⟨hundenied, turn, hturn, cause, hfailed⟩ := hbroken.split
    have hnot : ¬ Granted batch caller.userId turns :=
      fun hgranted => (hgranted.helps turn hturn).not_failed cause hfailed
    have hnone : ¬ ∃ turn ∈ turns, Denies turn :=
      fun ⟨turn, hturn, hdenies⟩ => hundenied turn hturn hdenies
    refine ⟨iff_of_false nofun hnot, iff_of_false nofun hnone, fun _ _ => ⟨e, rfl⟩, ?_⟩
    rintro _ ⟨⟩
    exact hbroken

/-- **An upstream that fails grants nothing and denies nothing.**  However the identity provider and
the directory reply, a batch is granted to a caller who is no administrator exactly when every reply
is a success that spells what was asked for and, for each space of the batch's apps, the one page of
a member.  It is denied exactly when a space is missing or the page of the caller's spaces is empty.
In every other case there is an error, and it names the request that failed. -/
theorem check_fails_closed (r : Remote) (upstream : Call → StateM σ (Option Reply)) (start : σ)
    (batch : List Policy) {caller : Claims} (hcaller : caller.isAdmin = false) :
    ∃ (result : Except AccessError Bool) (turns : List Turn),
      ((check batch caller).run.runM (r.answer upstream)).run' start = result ∧
      (r.converse upstream (check batch caller).run).run' start = (result, turns) ∧
      (result = .ok true ↔ Granted batch caller.userId turns) ∧
      (result = .ok false ↔ ∃ turn ∈ turns, Denies turn) ∧
      (¬ Granted batch caller.userId turns → (¬ ∃ turn ∈ turns, Denies turn) →
        ∃ e, result = .error e) ∧
      ∀ e, result = .error e → Broken batch caller.userId turns e := by
  have hcourse := (check batch caller).run.course_converse r upstream start
  have hresult := congrArg (·.run' start) (r.fst_converse upstream (check batch caller).run)
  exact ⟨_, _, hresult.symm, rfl, decision_of_course hcaller hcourse⟩

/-! ## A directory that breaks down -/

/-- Replies that come in their order, whatever is called for. -/
def inTurn (_ : Call) : StateM (List Reply) (Option Reply) := do
  match ← get with
  | [] => return none
  | reply :: others =>
    set others
    return some reply

def site : Remote := ⟨"http://uaa", "policies", "secret", "http://cc"⟩

/-- A reply with a text as its body. -/
def textReply (status : Nat) (body : String) : Reply := ⟨status, Utf8.bytes body.toList⟩

/-- A token, the app `a` in its space, that space, and then the given reply. -/
def afterSpace (last : Reply) : List Reply :=
  [textReply 200 "\x7b\"access_token\":\"t\"\x7d",
    textReply 200 ("\x7b\"resources\":[\x7b\"guid\":\"a\",\"relationships\":" ++
      "\x7b\"space\":\x7b\"data\":\x7b\"guid\":\"s\"\x7d\x7d\x7d\x7d]\x7d"),
    textReply 200 "\x7b\"entity\":\x7b\"name\":\"n\",\"organization_guid\":\"o\"\x7d\x7d",
    last]

/-- A page without spaces. -/
def emptyPage : String := "\x7b\"resources\":[]\x7d"

/-- The directory breaks down before it has said whether the caller is a member, though its reply
has a body that would deny it. -/
theorem check_fails_closed_outage :
    Claims.isAdmin ⟨[], "dev", "Dev"⟩ = false ∧
    ∃ turns, ((check [connection "a" "a"] ⟨[], "dev", "Dev"⟩).run.runM
          (site.answer inTurn)).run' (afterSpace (textReply 503 emptyPage))
        = .error (.space "s" (.status 503 emptyPage)) ∧
      Broken [connection "a" "a"] "dev" turns (.space "s" (.status 503 emptyPage)) ∧
      ¬ Granted [connection "a" "a"] "dev" turns ∧ ¬ ∃ turn ∈ turns, Denies turn := by
  have hcaller : Claims.isAdmin ⟨[], "dev", "Dev"⟩ = false := by decide
  obtain ⟨result, turns, hresult, -, hgranted, hdenied, -, hbroken⟩ :=
    check_fails_closed site inTurn (afterSpace (textReply 503 emptyPage))
      [connection "a" "a"] hcaller
  have hrun : ((check [connection "a" "a"] ⟨[], "dev", "Dev"⟩).run.runM
        (site.answer inTurn)).run' (afterSpace (textReply 503 emptyPage))
      = .error (.space "s" (.status 503 emptyPage)) := rfl
  obtain rfl := hrun.symm.trans hresult
  refine ⟨hcaller, turns, hrun, hbroken _ rfl, fun h => ?_, fun h => ?_⟩
  · cases hgranted.mpr h
  · cases hdenied.mpr h

end Guard

end NetworkPolicy
