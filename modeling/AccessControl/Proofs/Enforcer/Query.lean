import AccessControl.Proofs.Enforcer.Membership
import AccessControl.Proofs.Enforcer.OwnPermissions
import AccessControl.Proofs.Enforcer.Stored
import AccessControl.Proofs.Role.Closure

/-! Questions about rules, roles, permissions and domains all have answers, but for one: the users
of a domain are not told if a rule of the domain ends before its subject. -/

namespace AccessControl

/-- A question about the rules, roles, permissions and domains of an enforcer, in texts and
places. -/
inductive Query
  | rules (type : String)
  | filtered (type : String) (place : Nat) (wanted : List String)
  | has (type first : String) (rest : List String)
  | subjects (ptype : String)
  | objects (ptype : String)
  | actions (ptype : String)
  | groups (gtype : String)
  | linkedDomains
  | rolesOf (user domain : String)
  | usersOf (role domain : String)
  | hasRole (user role domain : String)
  | implicitRolesOf (user domain : String)
  | implicitUsersOf (role domain : String)
  | permissionsOf (ptype user domain : String)
  | hasPermission (user : String) (permission : List String)
  | implicitPermissionsOf (user domain : String)
  | usersInDomain (domain : String)
  | domainsOf (user : String)

/-- An answer: rules, names, or whether something is so. -/
inductive Reply
  | rules (rules : List Rule)
  | names (names : List String)
  | flag (flag : Bool)
deriving Repr, DecidableEq

namespace Enforcer

/-- The answer to a question. -/
def answerTo (enforcer : Enforcer) : Query → Except Error Reply
  | .rules type => .ok (.rules (enforcer.store.rules type))
  | .filtered type place wanted => (enforcer.store.filter type place (wanted.map .text)).map .rules
  | .has type first rest =>
    (enforcer.holdsRule type (ruleOfArguments (.text first :: rest.map .text))).map .flag
  | .subjects ptype => (enforcer.subjects ptype).map .names
  | .objects ptype => (enforcer.objects ptype).map .names
  | .actions ptype => (enforcer.actions ptype).map .names
  | .groups gtype => (enforcer.groups gtype).map .names
  | .linkedDomains => .ok (.names enforcer.linkedDomains)
  | .rolesOf user domain => (enforcer.rolesOf user domain).map .names
  | .usersOf role domain => (enforcer.usersOf role domain).map .names
  | .hasRole user role domain => (enforcer.hasRole user role domain).map .flag
  | .implicitRolesOf user domain => (enforcer.implicitRolesOf user domain).map .names
  | .implicitUsersOf role domain => (enforcer.implicitUsersOf role domain).map .names
  | .permissionsOf ptype user domain => (enforcer.permissionsOf ptype user domain).map .rules
  | .hasPermission user permission =>
    (enforcer.hasPermission (.text user) (permission.map .text)).map .flag
  | .implicitPermissionsOf user domain => (enforcer.implicitPermissionsOf user domain).map .rules
  | .usersInDomain domain => (enforcer.usersInDomain domain).map .names
  | .domainsOf user => (enforcer.domainsOf user).map .names

variable {enforcer : Enforcer} {h : Hierarchy}

/-! ### Rules -/

/-- The fields at a place are told whether or not the rules are long enough. -/
theorem fieldValues_ok (store : Store) (ptype : String) (place : Nat) :
    ∃ fields, store.fieldValues ptype place = .ok fields := by
  obtain ⟨fields, read⟩ := exists_mapM_eq_ok.mpr fun rule (_ : rule ∈ store.rules ptype) =>
    ⟨_, rule.fieldAt_natCast place⟩
  exact ⟨_, bind_eq_ok.mpr ⟨fields, read, rfl⟩⟩

/-- It is told of every rule of texts whether it is stored. -/
theorem holdsRule_ok (enforcer : Enforcer) (ptype first : String) (rest : List String) :
    ∃ answer, enforcer.holdsRule ptype (ruleOfArguments (.text first :: rest.map .text)) =
      .ok answer :=
  ⟨_, bind_eq_ok.mpr ⟨_, ofValue_permission ptype first (by simp), rfl⟩⟩

/-- The permissions of a user are told whether or not the rules are long enough. -/
theorem permissionsOf_ok (enforcer : Enforcer) (ptype user domain : String) :
    ∃ rules, enforcer.permissionsOf ptype user domain = .ok rules := by
  obtain ⟨rules, filtered⟩ := Store.select_ok
    (fun rule => ⟨_, rule.matchesFilter_text (enforcer.subjectPosition ptype) user⟩)
    (enforcer.store.rules ptype)
  have filtered : enforcer.store.filter ptype (enforcer.subjectPosition ptype) [.text user] =
    .ok rules := filtered
  by_cases anywhere : (domain == "") = true
  · -- Without a domain there are the rules of the user.
    exact ⟨rules, by simp [permissionsOf, filtered, anywhere]⟩
  · -- With one there are those of them that have it.
    exact ⟨_, by simp only [permissionsOf, filtered, anywhere, ok_bind]; rfl⟩

/-! ### Roles -/

section

variable (found : enforcer.roster.find? "g" = some (.hierarchy h)) (total : h.IsTotal)

include found total

/-- The direct roles of a user are told. -/
theorem rolesOf_ok (user domain : String) : ∃ roles, enforcer.rolesOf user domain = .ok roles := by
  obtain ⟨roles, listed, _⟩ := Hierarchy.roles_total total user domain
  exact ⟨roles, bind_eq_ok.mpr ⟨_, manager_eq_ok.mpr found, listed⟩⟩

/-- The direct members of a role are told. -/
theorem usersOf_ok (role domain : String) : ∃ users, enforcer.usersOf role domain = .ok users := by
  obtain ⟨users, listed, _⟩ := Hierarchy.neighbours_total total h.graph.users domain role
  exact ⟨users, bind_eq_ok.mpr ⟨_, manager_eq_ok.mpr found, listed⟩⟩

/-- All roles of a user are told. -/
theorem implicitRolesOf_ok (user domain : String) :
    ∃ roles, enforcer.implicitRolesOf user domain = .ok roles := by
  obtain ⟨roles, listed, _⟩ := Hierarchy.implicitRoles_total total user domain
  exact ⟨roles, bind_eq_ok.mpr ⟨_, manager_eq_ok.mpr found, listed⟩⟩

/-- All members of a role are told. -/
theorem implicitUsersOf_ok (role domain : String) :
    ∃ users, enforcer.implicitUsersOf role domain = .ok users := by
  obtain ⟨users, listed, _⟩ := Hierarchy.implicitUsers_total total role domain
  exact ⟨users, bind_eq_ok.mpr ⟨_, manager_eq_ok.mpr found, listed⟩⟩

/-- The domains of a user are told. -/
theorem domainsOf_ok (user : String) : ∃ domains, enforcer.domainsOf user = .ok domains := by
  obtain ⟨domains, listed⟩ := Hierarchy.domains_total total user
  exact ⟨domains, bind_eq_ok.mpr ⟨_, manager_eq_ok.mpr found, listed⟩⟩

/-- The permissions that a user has through all roles are told. -/
theorem implicitPermissionsOf_ok (user domain : String) :
    ∃ rules, enforcer.implicitPermissionsOf user domain = .ok rules := by
  obtain ⟨roles, listed⟩ := implicitRolesOf_ok found total user domain
  obtain ⟨rules, held⟩ := exists_mapM_eq_ok.mpr fun subject (_ : subject ∈ user :: roles) =>
    permissionsOf_ok enforcer "p" subject domain
  exact ⟨_, bind_eq_ok.mpr ⟨roles, listed, bind_eq_ok.mpr ⟨rules, held, rfl⟩⟩⟩

end

/-! ### Users of a domain -/

/-- A subject is there exactly if its rule is long enough. -/
theorem subjectAt_ok {position : Nat} {rule : Rule} :
    (∃ subject, subjectAt position rule = .ok subject) ↔ position < rule.length := by
  unfold subjectAt
  by_cases inside : position < rule.length
  · -- The rule is long enough.
    simp [inside]
  · -- The rule is too short.
    simp [inside]

/-- Where there is no subject, its position is to blame. -/
theorem subjectAt_error {position : Nat} {rule : Rule} {error : Error}
    (fails : subjectAt position rule = .error error) : error = .lookup (.position "list") := by
  unfold subjectAt at fails
  split at fails
  · -- A subject that is there is told.
    cases fails
  · -- A rule that is too short is the only reason.
    exact (Except.error.inj fails).symm

/-- All rules of the domain are long enough to have a subject. -/
def HasSubjects (enforcer : Enforcer) (domain : String) : Prop :=
  ∀ rule ∈ enforcer.store.rules "p", rule[enforcer.domainPosition "p"]? = some domain →
    enforcer.subjectPosition "p" < rule.length

/-- If rules of the stored kind have a subject in front of their domain, all rules of the domain
have it. -/
theorem hasSubjects_of_le (before : enforcer.subjectPosition "p" ≤ enforcer.domainPosition "p")
    (domain : String) : enforcer.HasSubjects domain := by
  intro rule _ inside
  obtain ⟨within, _⟩ := List.getElem?_eq_some_iff.mp inside
  exact before.trans_lt within

/-- The users of a domain are told exactly if all its rules have subjects; else the position of a
subject is to blame. The members are there in any case, as no stored rule is empty. -/
theorem usersInDomain_ok (sound : enforcer.store.IsSound) (domain : String) :
    ((∃ users, enforcer.usersInDomain domain = .ok users) ↔ enforcer.HasSubjects domain) ∧
      ∀ error, enforcer.usersInDomain domain = .error error →
        error = .lookup (.position "list") := by
  have filtered : enforcer.store.filter "g" 2 [.text domain] =
      .ok ((enforcer.store.rules "g").filter fun rule => domain == "" || rule[2]? == some domain) :=
    -- The members of the domain are the first fields of its rules, and no stored rule is empty.
    Store.select_eq_filter (fun rule => rule.matchesFilter_text 2 domain) _
  obtain ⟨members, read⟩ := exists_mapM_eq_ok.mpr fun rule (listed : rule ∈
      (enforcer.store.rules "g").filter fun rule => domain == "" || rule[2]? == some domain) =>
    subjectAt_ok.mpr (List.length_pos_iff.mpr
      (sound.normal "g" rule (List.mem_of_mem_filter listed)).nonempty)
  simp only [usersInDomain, filtered, read, ok_bind]
  constructor
  · -- What is left to fail is the reading of the subjects.
    have subjects : (∃ subjects, ((enforcer.store.rules "p").filter fun rule =>
          rule[enforcer.domainPosition "p"]? == some domain).mapM
            (subjectAt (enforcer.subjectPosition "p")) =
        .ok subjects) ↔ enforcer.HasSubjects domain := by
      simp [exists_mapM_eq_ok, subjectAt_ok, HasSubjects]
    rw [← subjects]
    constructor
    · -- The users are told, so all subjects are read.
      rintro ⟨users, told⟩
      obtain ⟨subjects, listed, _⟩ := bind_eq_ok.mp told
      exact ⟨subjects, listed⟩
    · -- All subjects are read, and with the members they are the users.
      rintro ⟨subjects, listed⟩
      exact ⟨_, bind_eq_ok.mpr ⟨subjects, listed, rfl⟩⟩
  · intro error fails
    rcases bind_eq_error.mp fails with fails | ⟨_, _, fails⟩
    · -- A subject is not there.
      obtain ⟨rule, _, fails⟩ := mapM_eq_error fails
      exact subjectAt_error fails
    · -- Nothing fails behind that.
      cases fails

/-! ### All questions -/

/-- What the rules have to be like for a question: only the users of a domain ask for something of
them. -/
def Suits (enforcer : Enforcer) : Query → Prop
  | .usersInDomain domain => enforcer.HasSubjects domain
  | _ => True

/-- An answer is there if what it is made of is. -/
theorem exists_map_eq_ok {α : Type} {told : Except Error α} {reply : α → Reply}
    (isTold : ∃ a, told = .ok a) : ∃ answer, told.map reply = .ok answer := by
  obtain ⟨a, rfl⟩ := isTold
  exact ⟨reply a, rfl⟩

/-- All questions but those about the users of a domain have answers, whatever the rules are. -/
theorem answerTo_ok (found : enforcer.roster.find? "g" = some (.hierarchy h)) (total : h.IsTotal)
    {query : Query}
    (other : ∀ domain, query ≠ .usersInDomain domain) :
    ∃ reply, enforcer.answerTo query = .ok reply := by
  cases query with
  | rules type => exact ⟨_, rfl⟩
  | linkedDomains => exact ⟨_, rfl⟩
  | filtered type place wanted =>
    -- A filter from a place on never counts from the end.
    exact exists_map_eq_ok
      (Store.select_ok (fun rule => rule.matchesFilter_ok _ (Int.natCast_nonneg place)) _)
  | has type first rest => exact exists_map_eq_ok (holdsRule_ok _ type first _)
  | hasPermission user permission => exact exists_map_eq_ok (holdsRule_ok _ "p" user _)
  | subjects ptype | objects ptype | actions ptype =>
    exact exists_map_eq_ok (fieldValues_ok _ ptype _)
  | groups gtype => exact exists_map_eq_ok (fieldValues_ok _ gtype 1)
  | rolesOf user domain => exact exists_map_eq_ok (rolesOf_ok found total user domain)
  | usersOf role domain => exact exists_map_eq_ok (usersOf_ok found total role domain)
  | hasRole user role domain =>
    obtain ⟨roles, listed⟩ := rolesOf_ok found total user domain
    exact exists_map_eq_ok ⟨_, bind_eq_ok.mpr ⟨roles, listed, rfl⟩⟩
  | implicitRolesOf user domain =>
    exact exists_map_eq_ok (implicitRolesOf_ok found total user domain)
  | implicitUsersOf role domain =>
    exact exists_map_eq_ok (implicitUsersOf_ok found total role domain)
  | permissionsOf ptype user domain =>
    exact exists_map_eq_ok (permissionsOf_ok enforcer ptype user domain)
  | implicitPermissionsOf user domain =>
    exact exists_map_eq_ok (implicitPermissionsOf_ok found total user domain)
  -- This is the query that is left out.
  | usersInDomain domain => exact absurd rfl (other domain)
  | domainsOf user => exact exists_map_eq_ok (domainsOf_ok found total user)

/-- In an enforcer that can be come by and whose hierarchy of `g` compares names and domains as they
are, every question has an answer, but for that about the users of a domain of which a rule ends
before its subject; then the position of the subject is to blame. If rules have their subject in
front of their domain, there is no such rule. -/
theorem Reachable.answerTo_total (reachable : enforcer.Reachable)
    (found : enforcer.roster.find? "g" = some (.hierarchy h)) (plain : h.IsPlain) (query : Query) :
    ((∃ reply, enforcer.answerTo query = .ok reply) ↔ enforcer.Suits query) ∧
      (∀ error, enforcer.answerTo query = .error error → error = .lookup (.position "list")) ∧
      (enforcer.subjectPosition "p" ≤ enforcer.domainPosition "p" →
        ∃ reply, enforcer.answerTo query = .ok reply) := by
  by_cases domains : ∃ domain, query = .usersInDomain domain
  · -- The users of a domain are told where each rule of it has its subject.
    obtain ⟨domain, rfl⟩ := domains
    obtain ⟨tells, blames⟩ := usersInDomain_ok reachable.isSound domain
    have answers : (∃ reply, enforcer.answerTo (.usersInDomain domain) = .ok reply) ↔
        enforcer.HasSubjects domain := by
      rw [← tells]
      constructor
      · rintro ⟨reply, answered⟩
        obtain ⟨users, told, _⟩ := map_eq_ok.mp answered
        exact ⟨users, told⟩
      · exact exists_map_eq_ok
    exact ⟨answers, fun error fails => blames error (map_eq_error.mp fails),
      fun before => answers.mpr (hasSubjects_of_le before domain)⟩
  · have other (domain : String) : query ≠ .usersInDomain domain :=
      fun same => domains ⟨domain, same⟩
    -- Every other query is answered by all enforcers with such a hierarchy.
    obtain ⟨reply, answered⟩ := answerTo_ok found plain.isTotal other
    refine ⟨⟨fun _ => ?_, fun _ => ⟨reply, answered⟩⟩, fun error fails => ?_, fun _ =>
      ⟨reply, answered⟩⟩
    · -- Nothing is asked of the rules.
      cases query <;> first | trivial | exact absurd rfl (other _)
    · -- The answer is no error.
      rw [answered] at fails
      cases fails

/-- The classic model with a domain in front of its rules and the subject behind them. -/
def subjectLast : Model := { Model.classic with policies := [("p", ["dom", "obj", "act", "sub"])] }

/-- A rule that ends before its subject, in one domain, and a whole rule in another one. -/
def shortWrites : List Write := [
  .policy "p" (.add (.list [.text "acme", .text "data"])),
  .policy "p" (.add (.list [.text "globex", .text "data", .text "read", .text "alice"]))]

/-- Whether a manager is a hierarchy without tests. -/
def isPlainHierarchy : Option RoleManager → Bool
  | some (.hierarchy h) => h.nameTest.isNone && h.domainTest.isNone
  | _ => false

/-- A hierarchy without tests compares names and domains as they are. -/
theorem exists_of_isPlainHierarchy {manager : Option RoleManager}
    (tells : isPlainHierarchy manager = true) : ∃ h, manager = some (.hierarchy h) ∧ h.IsPlain := by
  unfold isPlainHierarchy at tells
  split at tells
  · -- The manager is a hierarchy.
    rename_i h
    simp only [Bool.and_eq_true, Option.isNone_iff_eq_none] at tells
    exact ⟨h, rfl, tells.1, tells.2⟩
  · -- It is of another kind, or there is none.
    cases tells

/-- An enforcer with these rules can be come by, and it has a hierarchy without tests. -/
theorem exists_shortWrites : ∃ start h, (create .empty .default subjectLast).result = .ok start ∧
    (start.writes shortWrites).Reachable ∧
    (start.writes shortWrites).roster.find? "g" = some (.hierarchy h) ∧ h.IsPlain ∧
    (start.writes shortWrites).domainPosition "p" = 0 ∧
    (start.writes shortWrites).subjectPosition "p" = 3 ∧
    (start.writes shortWrites).store.rules "p" =
    [["acme", "data"], ["globex", "data", "read", "alice"]] := by
  have evaluated : (create .empty .default subjectLast).result.toOption.map (fun start =>
      (isPlainHierarchy ((start.writes shortWrites).roster.find? "g"),
        (start.writes shortWrites).domainPosition "p",
        (start.writes shortWrites).subjectPosition "p",
          (start.writes shortWrites).store.rules "p")) =
      some (true, 0, 3, [["acme", "data"], ["globex", "data", "read", "alice"]]) := by
    rw [@result_create _ subjectLast _ rfl readMatchers_classic]
    decide +kernel
  obtain ⟨start, created, evaluated⟩ := toOption_map_eq_some.mp evaluated
  obtain ⟨tells, evaluated⟩ := Prod.mk.inj evaluated
  obtain ⟨domain, evaluated⟩ := Prod.mk.inj evaluated
  obtain ⟨subject, rules⟩ := Prod.mk.inj evaluated
  obtain ⟨h, found, plain⟩ := exists_of_isPlainHierarchy tells
  exact ⟨start, h, created, (Reachable.of_default created).writes _, found, plain, domain,
    subject, rules⟩

/-- The users of the domain with the whole rule are told. -/
theorem Reachable.answerTo_total_whole : ∃ start h reply,
    (create .empty .default subjectLast).result = .ok start ∧
    (start.writes shortWrites).Reachable ∧
    (start.writes shortWrites).roster.find? "g" = some (.hierarchy h) ∧ h.IsPlain ∧
    (start.writes shortWrites).answerTo (.usersInDomain "globex") = .ok reply := by
  obtain ⟨start, h, created, reachable, found, plain, domain, subject, rules⟩ := exists_shortWrites
  obtain ⟨answers, _⟩ := reachable.answerTo_total found plain (.usersInDomain "globex")
  have suits : (start.writes shortWrites).HasSubjects "globex" := by
    rw [HasSubjects, domain, subject, rules]
    decide
  obtain ⟨reply, answered⟩ := answers.mpr suits
  exact ⟨start, h, reply, created, reachable, found, plain, answered⟩

/-- The users of the domain with the short rule are not told. -/
theorem domain_users_untold : ∃ start h, (create .empty .default subjectLast).result = .ok start ∧
    (start.writes shortWrites).Reachable ∧
    (start.writes shortWrites).roster.find? "g" = some (.hierarchy h) ∧ h.IsPlain ∧
    (start.writes shortWrites).answerTo (.usersInDomain "acme") =
      .error (.lookup (.position "list")) := by
  obtain ⟨start, h, created, reachable, found, plain, domain, subject, rules⟩ := exists_shortWrites
  obtain ⟨tells, blames⟩ := usersInDomain_ok reachable.isSound "acme"
  -- A rule ends before its subject.
  have lacks : ¬(start.writes shortWrites).HasSubjects "acme" := by
    rw [HasSubjects, domain, subject, rules]
    decide
  refine ⟨start, h, created, reachable, found, plain, ?_⟩
  cases told : (start.writes shortWrites).usersInDomain "acme" with
  | ok users => exact absurd (tells.mp ⟨users, told⟩) lacks
  | error error =>
    obtain rfl := blames error told
    simp [answerTo, told, Except.map]

end Enforcer

end AccessControl
