import Roster.Proofs.Log.Levels
import Roster.Server

/-!
# What the check of settings foresees

Settings are checked before anything is set up with them. Whether the server comes up is then decided
by those who use them: the filter reads the level, and the client of the Redis server reads the
address once more, in its own way.

* `Address.Obstacle` is what keeps an address with a scheme for Redis servers from being that of one,
  and `settles_ofNetwork` says that nothing else does.
* `accepted_settings_start` says for which settings that pass the check the server comes up and how it
  fails with the others.
-/

namespace Roster.Redis

open Roster.Net Roster.Number Roster.Text

namespace Address

/-- The names that a query may have for the version of the protocol. -/
def knownProtocols : List (List Char) := ["2", "resp2", "3", "resp3"].map String.toList

/-- What keeps a well-formed address with a scheme for Redis servers on the network from being one,
with the reason that is given for it. -/
inductive Obstacle (u : Url) : AddressError → Prop where
  | noHost (h : u.host = none) : Obstacle u .noHost
  /-- The address asks for an encrypted connection. -/
  | noTls (h : u.scheme = "rediss".toList) : Obstacle u .noTls
  /-- There is a path, and it is no number of a database. -/
  | badDatabase (h : withoutSlashes u.path ≠ [])
      (hno : ∀ i, intOfText? (withoutSlashes u.path) = some i → isSigned i = false) :
      Obstacle u .badDatabase
  | badUser (h : percentText? u.user = none) : Obstacle u .badUser
  | badPassword {password : List Char} (h : u.password = some password)
      (hno : percentText? password = none) : Obstacle u .badPassword
  /-- The query names a version of the protocol that there is not. -/
  | badProtocol {name : List Char} (h : u.parameter? "protocol".toList = some name)
      (hno : name ∉ knownProtocols) :
      Obstacle u (.badProtocol (String.ofList name))

/-- A part of reading an address either fails with an obstacle or rules out those for certain
reasons. -/
def Settles {α : Type} (u : Url) (reasons : AddressError → Prop) (part : Except AddressError α) :
    Prop :=
  (∃ a, part = .ok a ∧ ∀ why, reasons why → ¬ Obstacle u why) ∨
    ∃ why, part = .error why ∧ Obstacle u why

theorem Settles.bind {α β : Type} {u : Url} {reasons more : AddressError → Prop}
    {part : Except AddressError α} {next : α → Except AddressError β} (h : Settles u reasons part)
    (hnext : ∀ a, Settles u more (next a)) :
    Settles u (fun why => reasons why ∨ more why) (part.bind next) := by
  rcases h with ⟨a, rfl, hnone⟩ | ⟨why, rfl, hwhy⟩
  · rcases hnext a with ⟨b, hb, hnone'⟩ | hfails
    · exact .inl ⟨b, hb, fun why hwhy => hwhy.elim (hnone why) (hnone' why)⟩
    · exact .inr hfails
  · exact .inr ⟨why, rfl, hwhy⟩

/-! ### The parts of an address -/

/-- The database that a path names. -/
def databasePart (u : Url) : Except AddressError Int :=
  if (withoutSlashes u.path).isEmpty then .ok 0 else databaseOf (withoutSlashes u.path)

theorem settles_database (u : Url) : Settles u (· = .badDatabase) (databasePart u) := by
  simp only [databasePart]
  by_cases hpath : withoutSlashes u.path = []
  · refine .inl ⟨0, by rw [hpath]; rfl, ?_⟩
    rintro why rfl hobstacle
    cases hobstacle with
    | badDatabase hwritten hno => exact hwritten hpath
  · rw [if_neg (by simpa using hpath)]
    cases hsigned : (intOfText? (withoutSlashes u.path)).filter isSigned with
    | none =>
      refine .inr ⟨.badDatabase, by simp only [databaseOf, hsigned], .badDatabase hpath ?_⟩
      intro i hi
      rw [hi] at hsigned
      simpa using hsigned
    | some i =>
      refine .inl ⟨i, by simp only [databaseOf, hsigned], ?_⟩
      rintro why rfl hobstacle
      obtain ⟨hread, hi⟩ := Option.filter_eq_some_iff.1 hsigned
      cases hobstacle with
      | badDatabase hwritten hno =>
        rw [hno i hread] at hi
        cases hi

theorem percentText?_nil : percentText? [] = some [] := by decide +kernel

/-- A name in front of the host is in the way if it is not text. -/
theorem settles_credential {u : Url} {bad : AddressError} {written : Option (List Char)}
    (h : Obstacle u bad ↔ ∃ cs, written = some cs ∧ percentText? cs = none) :
    Settles u (· = bad) (credential bad written) := by
  cases written with
  | none =>
    refine .inl ⟨none, rfl, ?_⟩
    rintro why rfl hobstacle
    obtain ⟨cs, hcs, -⟩ := h.1 hobstacle
    cases hcs
  | some cs =>
    simp only [credential]
    cases hread : percentText? cs with
    | none => exact .inr ⟨bad, rfl, h.2 ⟨cs, rfl, hread⟩⟩
    | some text =>
      refine .inl ⟨some text, rfl, ?_⟩
      rintro why rfl hobstacle
      obtain ⟨ds, hds, hno⟩ := h.1 hobstacle
      cases hds
      rw [hread] at hno
      cases hno

theorem settles_user (u : Url) : Settles u (· = .badUser)
    (credential .badUser (if u.user.isEmpty then none else some u.user)) := by
  refine settles_credential ⟨fun h => ?_, ?_⟩
  · cases h with
    | badUser hno =>
      have hwritten : u.user ≠ [] := by
        intro hnil
        rw [hnil, percentText?_nil] at hno
        cases hno
      exact ⟨u.user, if_neg (by simpa using hwritten), hno⟩
  · rintro ⟨cs, hcs, hno⟩
    split at hcs
    · cases hcs
    · cases hcs
      exact .badUser hno

theorem settles_password (u : Url) :
    Settles u (· = .badPassword) (credential .badPassword u.password) := by
  refine settles_credential ⟨fun h => ?_, fun ⟨cs, hcs, hno⟩ => .badPassword hcs hno⟩
  cases h with
  | badPassword hcs hno => exact ⟨_, hcs, hno⟩

theorem find?_protocolNames (name : List Char) :
    (protocolNames.find? (·.1.toList = name)).isSome = true ↔ name ∈ knownProtocols := by
  have hnames : protocolNames.map (·.1.toList) = knownProtocols := rfl
  rw [List.find?_isSome, ← hnames]
  simp only [List.mem_map, decide_eq_true_eq]

theorem settles_protocol (u : Url) :
    Settles u (fun why => ∃ name, why = .badProtocol name) (protocolOf u) := by
  simp only [protocolOf]
  cases hasked : u.parameter? "protocol".toList with
  | none =>
    refine .inl ⟨.second, rfl, ?_⟩
    rintro why ⟨name, rfl⟩ hobstacle
    cases hobstacle with
    | badProtocol h hno =>
      rw [hasked] at h
      cases h
  | some name =>
    have hknown := find?_protocolNames name
    cases hfound : protocolNames.find? (·.1.toList = name) with
    | none =>
      rw [hfound] at hknown
      refine .inr ⟨_, by simp only [hfound], .badProtocol hasked fun h => ?_⟩
      exact absurd (hknown.2 h) (by simp)
    | some p =>
      rw [hfound] at hknown
      refine .inl ⟨p.2, by simp only [hfound], ?_⟩
      rintro why ⟨other, rfl⟩ hobstacle
      cases hobstacle with
      | badProtocol h hno =>
        rw [hasked] at h
        cases h
        exact hno (hknown.1 rfl)

/-! ### Addresses -/

theorem ofNetwork_eq {u : Url} {host : List Char} (hhost : u.host = some host)
    (htls : u.scheme ≠ "rediss".toList) :
    ofNetwork u = (databasePart u).bind fun database =>
      (credential .badUser (if u.user.isEmpty then none else some u.user)).bind fun user =>
      (credential .badPassword u.password).bind fun password =>
      (protocolOf u).bind fun protocol =>
        .ok ⟨.network host (u.port.getD usualPort), database, user, password, protocol⟩ := by
  simp only [ofNetwork, databasePart, hhost, if_neg htls]
  split <;> rfl

/-- An address with a scheme for Redis servers on the network is read exactly if there is no obstacle,
and otherwise the reason is that of an obstacle. -/
theorem settles_ofNetwork (u : Url) : Settles u (fun _ => True) (ofNetwork u) := by
  cases hhost : u.host with
  | none => exact .inr ⟨.noHost, by simp only [ofNetwork, hhost]; rfl, .noHost hhost⟩
  | some host =>
    by_cases htls : u.scheme = "rediss".toList
    · exact .inr ⟨.noTls, by simp only [ofNetwork, hhost, if_pos htls]; rfl, .noTls htls⟩
    · have hparts : Settles u (fun why => why = .badDatabase ∨ why = .badUser ∨ why = .badPassword ∨
          (∃ name, why = .badProtocol name) ∨ False) (ofNetwork u) := by
        rw [ofNetwork_eq hhost htls]
        exact (settles_database u).bind fun database => (settles_user u).bind fun user =>
          (settles_password u).bind fun password => (settles_protocol u).bind fun protocol =>
            .inl ⟨_, rfl, fun _ hnone => hnone.elim⟩
      rcases hparts with ⟨a, ha, hnone⟩ | hfails
      · refine .inl ⟨a, ha, fun why _ hobstacle => ?_⟩
        cases hobstacle with
        | noHost h =>
          rw [hhost] at h
          cases h
        | noTls h => exact htls h
        | badDatabase h hno => exact hnone _ (.inl rfl) (.badDatabase h hno)
        | badUser h => exact hnone _ (.inr (.inl rfl)) (.badUser h)
        | badPassword h hno => exact hnone _ (.inr (.inr (.inl rfl))) (.badPassword h hno)
        | badProtocol h hno =>
          exact hnone _ (.inr (.inr (.inr (.inl ⟨_, rfl⟩)))) (.badProtocol h hno)
      · exact .inr hfails

end Address

end Roster.Redis

namespace Roster

open Roster.Log Roster.Net Roster.Redis Roster.Redis.Address Roster.Service Roster.Text

/-! ### The server -/

/-- Settings that ask for a cache in front of a Redis server whose address has an obstacle. -/
def Settings.Hindered (s : Settings) (why : AddressError) : Prop :=
  s.cache.enabled = true ∧ s.redis.enabled = true ∧
    ∃ u, Url.ofText s.redis.url.toList = .ok u ∧ Obstacle u why

theorem faults_of_check {s : Settings} (h : s.check = .ok ()) :
    s.redis.faults = [] ∧ s.observability.faults = [] := by
  have hnone : s.faults = [] := by
    simp only [Settings.check] at h
    split at h
    · rename_i hempty
      simpa using hempty
    · cases h
  simp only [Settings.faults, List.append_eq_nil_iff] at hnone
  exact ⟨hnone.1.2, hnone.2⟩

/-- What the check knows of an address: it is well formed and has a scheme for Redis servers on the
network, so the client reads it as such an address. -/
theorem ofText_of_faultless {s : RedisSettings} (h : s.faults = []) (henabled : s.enabled = true) :
    ∃ u, Url.ofText s.url.toList = .ok u ∧ Address.ofText s.url = ofNetwork u := by
  have hurl : redisUrlFault? s.url = none := by
    simp only [RedisSettings.faults, henabled] at h
    rw [if_neg (by decide), List.append_assoc] at h
    simpa using (List.append_eq_nil_iff.1 h).1
  simp only [redisUrlFault?] at hurl
  cases hread : Url.ofText s.url.toList with
  | error e =>
    rw [hread] at hurl
    cases hurl
  | ok u =>
    refine ⟨u, rfl, ?_⟩
    rw [hread] at hurl
    have hscheme : ["redis", "rediss"].any (·.toList = u.scheme) = true := by
      simp only at hurl
      split at hurl
      · rename_i hscheme
        simp only [Bool.or_eq_true, decide_eq_true_eq] at hscheme
        simp only [List.any_cons, List.any_nil, Bool.or_false, Bool.or_eq_true, decide_eq_true_eq]
        exact hscheme.imp Eq.symm Eq.symm
      · cases hurl
    simp only [Address.ofText, hread]
    rw [if_pos hscheme]

/-- The cache that settings ask for can be made unless there is something in the way. -/
theorem assemble_cases {s : Settings} (h : s.redis.faults = []) (memory : s.storage.inMemory = true) :
    ((∃ plan, Server.assemble s = .ok plan) ∧ ∀ why, ¬ s.Hindered why) ∨
      ∃ why, s.Hindered why ∧ Server.assemble s =
        .error (.cache ("Failed to create Redis pool: Config: Redis: " ++ why.message)) := by
  simp only [Server.assemble, CachePlan.ofSettings, if_pos memory]
  cases hcache : s.cache.enabled with
  | false =>
    refine .inl ⟨⟨none, rfl⟩, ?_⟩
    rintro why ⟨hasked, -⟩
    rw [hcache] at hasked
    cases hasked
  | true =>
    cases hredis : s.redis.enabled with
    | false =>
      refine .inl ⟨⟨_, rfl⟩, ?_⟩
      rintro why ⟨-, hasked, -⟩
      rw [hredis] at hasked
      cases hasked
    | true =>
      obtain ⟨u, hu, hread⟩ := ofText_of_faultless h hredis
      rcases settles_ofNetwork u with ⟨address, haddress, hnone⟩ | ⟨why, hfails, hwhy⟩
      · refine .inl ⟨?_, ?_⟩
        · simp only [Client.ofSettings, hread, haddress]
          exact ⟨_, rfl⟩
        · rintro why ⟨-, -, v, hv, hobstacle⟩
          rw [hu] at hv
          cases hv
          exact hnone why trivial hobstacle
      · refine .inr ⟨why, ⟨hcache, hredis, u, hu, hwhy⟩, ?_⟩
        simp only [Client.ofSettings, hread, hfails]
        rfl

theorem getLast?_lines {s : LogSettings} {f : Filter} {e : Event} (h : f.passes e = true)
    (before : List Event) : (Server.lines s f (before ++ [e])).getLast? = some (s.line e) := by
  simp only [Server.lines]
  rw [List.filter_append, List.filter_cons_of_pos h, List.map_append]
  exact List.getLast?_concat

theorem own_target : "strata".toList.isPrefixOf Server.target.toList = true := by decide

/-- Settings that pass the check have a level that filters know. With users in memory the server
becomes ready with them, unless they ask for a Redis server whose address has an obstacle, which the
check does not look for. Then it fails for the reason of an obstacle. In either case the log says so
last. -/
theorem accepted_settings_start (s : Settings) (accepted : s.check = .ok ())
    (memory : s.storage.inMemory = true) :
    (∃ level : Level, lower s.observability.level.toList = level.setName ∧
        s.observability.filter none = .ok (.usual level)) ∧
      ((∀ why, ¬ s.Hindered why) → ∃ server, (Server.startWith s none).2 = .ok server ∧
        server.settings = s ∧ (Server.startWith s none).1.getLast? =
          some (s.observability.line (Server.event "Strata ready"))) ∧
      ((∃ why, s.Hindered why) → ∃ why, s.Hindered why ∧ ∃ e,
        e = .cache ("Failed to create Redis pool: Config: Redis: " ++ why.message) ∧
        (Server.startWith s none).2 = .error e ∧ (Server.startWith s none).1.getLast? =
          some (s.observability.line (Server.failureEvent e))) := by
  obtain ⟨hredis, hlog⟩ := faults_of_check accepted
  obtain ⟨level, hlevel, hfilter⟩ := LogSettings.filter_of_faultless hlog
  refine ⟨⟨level, hlevel, hfilter⟩, ?_⟩
  simp only [Server.startWith, hfilter]
  rcases assemble_cases hredis memory with ⟨⟨plan, hplan⟩, hfree⟩ | ⟨why, hwhy, hfails⟩
  · refine ⟨fun _ => ?_, fun ⟨why, hwhy⟩ => absurd hwhy (hfree why)⟩
    have hready := Filter.usual_passes level (e := Server.event "Strata ready") own_target (by decide)
    have hlast := getLast?_lines (s := s.observability) hready
      (Server.openingEvents s ++ [CachePlan.event plan])
    simp only [hplan]
    refine ⟨_, rfl, rfl, ?_⟩
    rwa [List.append_assoc] at hlast
  · refine ⟨fun hfree => absurd hwhy (hfree why), fun _ => ⟨why, hwhy, _, rfl, ?_⟩⟩
    simp only [hfails]
    exact ⟨trivial, getLast?_lines (Filter.usual_passes level own_target (fun h => by cases h)) _⟩

/-- Settings for a trial that name a Redis server. -/
def trialSettings (url : String) : Settings :=
  { Settings.default with
    redis := { RedisSettings.default with url := url, enabled := true },
    observability := { LogSettings.default with level := "Debug" } }

/-- An address with all that an address can have, and its parts. -/
def trialUrl : String := "redis://shelf:6%20books@[::1]/7?protocol=resp3"

def trialParts : Url where
  scheme := "redis".toList
  user := "shelf".toList
  password := some "6%20books".toList
  host := some "[::1]".toList
  port := none
  path := "/7".toList
  query := some "protocol=resp3".toList

theorem trialParts_free (why : AddressError) : ¬ Obstacle trialParts why := by
  intro hobstacle
  cases hobstacle with
  | noHost h => cases h
  | noTls h => exact absurd h (by decide)
  | badDatabase h hno => exact absurd (hno 7 rfl) (by decide)
  | badUser h => exact absurd h (by decide +kernel)
  | badPassword h hno =>
    cases h
    exact absurd hno (by decide +kernel)
  | badProtocol h hno =>
    have hasked : trialParts.parameter? "protocol".toList = some "resp3".toList := by decide +kernel
    rw [hasked] at h
    cases h
    exact hno (by decide)

theorem accepted_settings_start_in_trial :
    (trialSettings trialUrl).check = .ok () ∧ (trialSettings trialUrl).storage.inMemory = true ∧
      ∃ server, (Server.startWith (trialSettings trialUrl) none).2 = .ok server := by
  have hchecked : (trialSettings trialUrl).check = .ok () := rfl
  have hfree : ∀ why, ¬ (trialSettings trialUrl).Hindered why := by
    rintro why ⟨-, -, u, hu, hobstacle⟩
    have hparts : Url.ofText trialUrl.toList = .ok trialParts := rfl
    cases hparts.symm.trans hu
    exact trialParts_free why hobstacle
  obtain ⟨server, hserver, -⟩ := (accepted_settings_start _ hchecked rfl).2.1 hfree
  exact ⟨hchecked, rfl, server, hserver⟩

/-- The check lets an address pass that asks for an encrypted connection, and no client can be made
for it. -/
theorem encrypted_connection_refused :
    (trialSettings "rediss://localhost:6379").check = .ok () ∧
      (trialSettings "rediss://localhost:6379").storage.inMemory = true ∧
      (Server.startWith (trialSettings "rediss://localhost:6379") none).2 =
        .error (.cache ("Failed to create Redis pool: Config: Redis: " ++
          "can't connect with TLS, the feature is not enabled- InvalidClientConfig")) :=
  ⟨rfl, rfl, rfl⟩

end Roster
