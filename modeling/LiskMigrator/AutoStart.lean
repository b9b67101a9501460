import LiskMigrator.Milestones

namespace LiskMigrator
open Interaction Outcome Words

-- A v4 configuration, as far as its ports go: they are numbers, where they are set.
structure PartialApplicationConfig where
  value : Json
  ports : ∀ name ∈ ["network","rpc"], ∀ port, value.find [name,"port"] = some port → ∃ n : Nat, port = .number n

namespace PartialApplicationConfig
variable (config : PartialApplicationConfig)

def portOr (config : PartialApplicationConfig) (name : String) (fallback : Nat) : Nat :=
  match config.value.find [name,"port"] with
  | some (.number port) => port.num.toNat
  | _ => fallback

-- The ports that Lisk Core v4 will use.
def networkPort : Nat := config.portOr "network" defaultPortP2P

def rpcPort : Nat := config.portOr "rpc" defaultPortRPC

theorem port_read (known : name ∈ ["network","rpc"]) (fallback : Nat) :
    LiskMigrator.portOr (some config.value) [name,"port"] fallback = .number (config.portOr name fallback) := by
  unfold LiskMigrator.portOr portOr
  rw [Option.bind_some]
  cases found : config.value.find [name,"port"] with
  | none => rfl
  | some port =>
    obtain ⟨n,rfl⟩ := config.ports name known port found
    simp

end PartialApplicationConfig

-- What a check whether v3 still runs has seen, by its last request.
def observation : Event migrator → Option Bool
  | ⟨.createIPCClient _,.error _⟩ => some false
  | ⟨.getNodeInfo _,.error _⟩ => some false
  | ⟨.getNodeInfo _,.ok _⟩ => some true
  | _ => none

-- What the latest of these checks has seen.
def lastCheck (events : List (Event migrator)) : Option Bool := events.findSome? observation

-- What has to be so when the data directory of v3 is moved.
structure Guarded (outputDir : String) (occupied : Set Nat) (config : PartialApplicationConfig) (events : List (Event migrator)) : Prop where
  copied : ∃ dest, ⟨.copyFile (outputDir ++ "/genesis_block.blob") (dest ++ "/genesis_block.blob"),.ok ()⟩ ∈ events
  stopConfirmed : ⟨.confirm .stopLiskCoreV3,.ok true⟩ ∈ events
  configConfirmed : ⟨.confirm (.configuration (some config.value)),.ok true⟩ ∈ events
  stopped : lastCheck events = some false
  networkFree : config.networkPort ∉ occupied
  rpcFree : config.rpcPort ∉ occupied

-- A port that is taken cannot be listened on.
def Occupies (world : World migrator) (occupied : Set Nat) : Prop :=
  ∀ events (port : Nat), world events (.listen (.number port)) = .ok () → port ∉ occupied

def Renames : Event migrator → Prop
  | ⟨.rename _ _,_⟩ => True
  | _ => False

-- Every rename among the events, the newest first, came when it was allowed.
def Safe (allowed : List (Event migrator) → Prop) : List (Event migrator) → Prop
  | [] => True
  | event :: earlier => (Renames event → allowed earlier) ∧ Safe allowed earlier

section Run
variable {host : Host} {world : World migrator} {s t : Session migrator Store} {allowed : List (Event migrator) → Prop}

theorem plain_stays {event : Event migrator} (plain : Plain event) : ¬ Renames event := by
  intro renames
  unfold Renames at renames
  split at renames
  · rename_i src dest reply
    cases reply with
    | ok _ => cases plain
    | error _ => cases plain
  · exact renames

theorem safe_append (still : ∀ event ∈ more, ¬ Renames event) (safe : Safe allowed events) : Safe allowed (more ++ events) := by
  induction more with
  | nil => exact safe
  | cons event more ih =>
    have later := ih (fun other member => still other (List.mem_cons_of_mem event member))
    exact ⟨fun renames => absurd renames (still event List.mem_cons_self),later⟩

theorem safe_follows {may : Event migrator → Prop} (still : ∀ event, may event → ¬ Renames event) (safe : Safe allowed s.events)
    (follows : Follows may view s t) : Safe allowed t.events := by
  obtain ⟨⟨more,split,kinds⟩,_⟩ := follows
  rw [split]
  exact safe_append (fun event member => still event (kinds event member)) safe

theorem safe_rename (safe : Safe allowed events) (member : event ∈ events) (renames : Renames event) :
    ∃ earlier, allowed earlier := by
  induction events with
  | nil => cases member
  | cons last earlier ih =>
    rcases List.mem_cons.mp member with rfl | before
    · exact ⟨earlier,safe.1 renames⟩
    · exact ih safe.2 before

-- The requests that neither move the data directory nor look at v3.
def Aside (event : Event migrator) : Prop := ¬ Renames event ∧ observation event = none

theorem lastCheck_follows (follows : Follows Aside view s t) : lastCheck t.events = lastCheck s.events := by
  obtain ⟨⟨more,split,aside⟩,_⟩ := follows
  have none : more.findSome? observation = none := List.findSome?_eq_none_iff.mpr (fun event member => (aside event member).2)
  unfold lastCheck
  rw [split,List.findSome?_append,none,Option.none_or]

theorem check_seen : Ends (isLiskCoreV3Running world liskCorePath) s (fun running t => lastCheck t.events = some running)
    (fun _ _ => False) := by
  apply ends_handle (fun _ t => lastCheck t.events = some false)
  · have connected : Ends (getAPIClient world liskCorePath true) s (fun _ _ => True)
        (fun _ t => lastCheck t.events = some false) := by
      apply ends_bind (ends_readStore rfl : Ends readStore s (fun store t => store = t.store) _)
      intro store t _
      rw [if_pos (.inr rfl)]
      have created : Ends (settled (ask world (.createIPCClient liskCorePath))) t (fun _ _ => True)
          (fun _ t => lastCheck t.events = some false) := by
        apply ends_settled
        apply ends_ask
        intro reply _
        cases reply with
        | ok _ => trivial
        | error _ => rfl
      exact ends_bind created (fun _ _ _ => ends_update _ trivial)
    apply ends_bind connected
    intro _ t _
    have asked : Ends (settled (ask world (.getNodeInfo liskCorePath))) t (fun _ t => lastCheck t.events = some true)
        (fun _ t => lastCheck t.events = some false) := by
      apply ends_settled
      apply ends_ask
      intro reply _
      cases reply with
      | ok _ => rfl
      | error _ => rfl
    exact ends_bind asked (fun _ _ seen => ends_pure seen)
  · exact fun _ _ seen => ends_pure seen

-- The loop ends behind a look at v3 that found it stopped; on the last try that
-- is the one behind the confirmation.
theorem await_seen (tries : Nat) (before : tries = 0 → lastCheck s.events = some false) :
    Ends (awaitLiskCoreV3Stopped world context snapshotDirPath tries) s (fun _ t => lastCheck t.events = some false)
      (fun _ _ => True) := by
  have checked (u : Session migrator Store) : Ends (isLiskCoreV3Running world context.liskCoreV3DataPath) u
      (fun running v => lastCheck v.events = some running) (fun _ _ => True) :=
    ends_imp check_seen (fun _ _ seen => seen) (fun _ _ _ => trivial)
  induction tries generalizing s with
  | zero => exact ends_pure (before rfl)
  | succ numTriesLeft ih =>
    apply ends_bind (checked s)
    intro running t seen
    cases running with
    | false => exact ends_pure seen
    | true =>
      rw [if_pos rfl,if_pos (Nat.zero_le numTriesLeft)]
      apply ends_bind ends_any
      intro isStopReconfirmed t _
      cases isStopReconfirmed with
      | false => exact ends_throw trivial
      | true =>
        rw [if_neg (by simp)]
        by_cases last : numTriesLeft = 0
        · rw [if_pos ⟨last,rfl⟩]
          apply ends_bind (checked t)
          intro stillRunning t seen
          cases stillRunning with
          | false => exact ih (fun _ => seen)
          | true => exact ends_throw trivial
        · rw [if_neg (fun both => last both.1)]
          exact ih (fun zero => absurd zero last)

variable {occupied : Set Nat} {config : PartialApplicationConfig} {events : List (Event migrator)}

-- On the way to the rename: what has been asked so far, of what counts.
structure Underway (outputDir : String) (occupied : Set Nat) (config : PartialApplicationConfig) (facts : List (Event migrator))
    (s : Session migrator Store) : Prop where
  safe : Safe (Guarded outputDir occupied config) s.events
  configured : s.store.configCoreV4 = some config.value
  answered : ∀ event ∈ facts, event ∈ s.events

theorem Underway.follows {may : Event migrator → Prop} (still : ∀ event, may event → ¬ Renames event)
    (underway : Underway outputDir occupied config facts s) (follows : Follows may Store.remembered s t) :
    Underway outputDir occupied config facts t := by
  refine ⟨safe_follows still underway.safe follows,?_,fun event member => follows.mem (underway.answered event member)⟩
  have same : t.store.configCoreV4 = s.store.configCoreV4 := congrArg (fun shown => shown.1.2) follows.store
  exact same.trans underway.configured

theorem Underway.event {event : Event migrator} (underway : Underway outputDir occupied config facts s) (still : ¬ Renames event) :
    Underway outputDir occupied config (event :: facts) ⟨event :: s.events,s.store⟩ := by
  refine ⟨⟨fun renames => absurd renames still,underway.safe⟩,underway.configured,?_⟩
  intro other member
  rcases List.mem_cons.mp member with rfl | earlier
  · exact List.mem_cons_self
  · exact List.mem_cons_of_mem _ (underway.answered other earlier)

theorem underway_quiet {x : Migration α} (underway : Underway outputDir occupied config facts s) (quiet : Quiet fails x) :
    Ends x s (fun _ t => Underway outputDir occupied config facts t) (fun _ t => Safe (Guarded outputDir occupied config) t.events) := by
  apply ends_imp (quiet s)
  · exact fun _ _ follows => underway.follows (fun _ => plain_stays) follows
  · exact fun _ _ failed => (underway.follows (fun _ => plain_stays) failed.1).safe

theorem confirm_ends (underway : Underway outputDir occupied config facts s) (question : Question) :
    Ends (settled (ask world (.confirm question))) s
      (fun answer t => Underway outputDir occupied config (⟨.confirm question,.ok answer⟩ :: facts) t ∧
        lastCheck t.events = lastCheck s.events)
      (fun _ t => Safe (Guarded outputDir occupied config) t.events) := by
  apply ends_settled
  apply ends_ask
  intro reply _
  cases reply with
  | ok answer => exact ⟨underway.event id,rfl⟩
  | error _ => exact (underway.event id).safe

theorem copied_ends (underway : Underway outputDir occupied config facts s) :
    Ends (copyGenesisBlock world src dest) s (fun _ t => Underway outputDir occupied config (⟨.copyFile src dest,.ok ()⟩ :: facts) t)
      (fun _ t => Safe (Guarded outputDir occupied config) t.events) := by
  apply ends_settled
  apply ends_ask
  intro reply _
  cases reply with
  | ok _ => exact underway.event id
  | error _ => exact (underway.event id).safe

theorem port_ends (occupies : Occupies world occupied) (port : Nat) :
    Ends (requirePort world (.number port) message) s (fun _ _ => port ∉ occupied) (fun _ _ => True) := by
  have listened : Ends (isPortAvailable world (.number port)) s (fun available _ => available = true → port ∉ occupied)
      (fun _ _ => True) := by
    apply ends_bind (ends_ask world (fun reply replied => replied) : Ends (ask world (.listen (.number port))) s
      (fun reply _ => reply = world s.events (.listen (.number port))) _)
    intro reply t replied
    cases reply with
    | ok _ => exact ends_pure (fun _ => occupies s.events port replied.symm)
    | error fault =>
      apply ends_ite
      · exact fun _ => ends_pure (fun never => Bool.noConfusion never)
      · exact fun _ => ends_throw trivial
  apply ends_bind listened
  intro available t free
  cases available with
  | true => exact ends_pure (free rfl)
  | false => exact ends_throw trivial

-- The two ports that are probed are the configured one for P2P, with the default
-- of either kind.
theorem checkPorts_ends (occupies : Occupies world occupied) :
    Ends (checkPorts world (some config.value)) s
      (fun _ _ => config.networkPort ∉ occupied ∧ config.portOr "network" defaultPortRPC ∉ occupied) (fun _ _ => True) := by
  unfold checkPorts
  rw [config.port_read (by simp),config.port_read (by simp)]
  apply ends_bind (port_ends occupies _)
  intro _ t networkFree
  exact ends_imp (port_ends occupies _) (fun _ _ rpcFree => ⟨networkFree,rpcFree⟩) (fun _ _ _ => trivial)

theorem Guarded.follows (guarded : Guarded outputDir occupied config s.events) (follows : Follows Aside view s t) :
    Guarded outputDir occupied config t.events := by
  obtain ⟨dest,copied⟩ := guarded.copied
  exact ⟨⟨dest,follows.mem copied⟩,follows.mem guarded.stopConfirmed,follows.mem guarded.configConfirmed,
    (lastCheck_follows follows).trans guarded.stopped,guarded.networkFree,guarded.rpcFree⟩

theorem rename_guarded (safe : Safe allowed s.events) (now : allowed s.events) :
    Ends (settled (ask world (.rename src dest))) s (fun _ t => Safe allowed t.events) (fun _ t => Safe allowed t.events) := by
  apply ends_settled
  apply ends_ask
  intro reply _
  cases reply with
  | ok _ => exact ⟨fun _ => now,safe⟩
  | error _ => exact ⟨fun _ => now,safe⟩

theorem backup_guarded (safe : Safe (Guarded outputDir occupied config) s.events) (guarded : Guarded outputDir occupied config s.events) :
    Ends (backupLegacyDataDir host world liskCorePath) s (fun _ t => Safe (Guarded outputDir occupied config) t.events)
      (fun _ t => Safe (Guarded outputDir occupied config) t.events) := by
  apply ends_handle (fun _ t => Safe (Guarded outputDir occupied config) t.events)
  · apply ends_ite
    · intro _
      have made : Keeps Aside Store.remembered Ordinary (settled (ask world (.mkdir (host.homedir ++ "/.lisk")))) :=
        keeps_settled (keeps_ask world _ (fun _ => ⟨id,rfl⟩))
      have aside : Ends (settled (ask world (.mkdir (host.homedir ++ "/.lisk")))) s
          (fun _ t => Safe (Guarded outputDir occupied config) t.events ∧ Guarded outputDir occupied config t.events)
          (fun _ t => Safe (Guarded outputDir occupied config) t.events) := by
        apply ends_imp (made s)
        · exact fun _ _ follows => ⟨safe_follows (fun _ => And.left) safe follows,guarded.follows follows⟩
        · exact fun _ _ failed => safe_follows (fun _ => And.left) safe failed.1
      exact ends_bind aside (fun _ _ kept => rename_guarded kept.1 kept.2)
    · exact fun _ => rename_guarded safe guarded
  · exact fun _ _ safe => ends_throw safe

-- Nothing behind the backup renames.
theorem still_untouched {x : Migration α} (keeps : Keeps Plain Store.untouched fails x) :
    Keeps (fun event => ¬ Renames event) Store.untouched fails x := keeps_imp keeps (fun _ => plain_stays) (fun _ held => held)

theorem still_quiet {x : Migration α} (quiet : Quiet fails x) : Keeps (fun event => ¬ Renames event) Store.untouched fails x :=
  still_untouched (quiet_untouched quiet)

theorem still_copyLegacyDB : Keeps (fun event => ¬ Renames event) Store.untouched (fun _ => True) (copyLegacyDB host world) :=
  keeps_handle (keeps_settled (keeps_ask world _ (fun _ => id))) (fun _ _ => keeps_throw trivial)

theorem still_launch :
    Keeps (fun event => ¬ Renames event) Store.untouched Foreign (launchLiskCore host world network outputDir) := by
  apply keeps_bind (still_quiet (quiet_getFinalConfigPath Foreign))
  intro configPath
  apply keeps_bind (still_untouched untouched_resolveStartCommand)
  intro script
  apply keeps_bind (still_quiet (quiet_foreign (keeps_settled (quiet_request fun _ => rfl))))
  intro isUserConfirmed
  apply keeps_bind (still_quiet (quiet_foreign (quiet_cliErrorIf _ _)))
  intro _
  apply keeps_bind (still_quiet quiet_installPM2)
  intro _
  apply keeps_bind (still_quiet (quiet_foreign (keeps_settled (quiet_request fun _ => rfl))))
  intro _
  exact keeps_bind (keeps_executed (keeps_ask world _ (fun _ => id))) (fun _ => keeps_pure ())

theorem safe_still {x : Migration α} (safe : Safe allowed s.events)
    (still : Keeps (fun event => ¬ Renames event) Store.untouched fails x) :
    Ends x s (fun _ t => Safe allowed t.events) (fun _ t => Safe allowed t.events) := by
  apply ends_imp (still s)
  · exact fun _ _ follows => safe_follows (fun _ => id) safe follows
  · exact fun _ _ failed => safe_follows (fun _ => id) safe failed.1

-- Where the port for RPC is taken, one of the two that are probed is taken, too.
def Covered (config : PartialApplicationConfig) (occupied : Set Nat) : Prop :=
  config.rpcPort ∈ occupied → config.networkPort ∈ occupied ∨ config.portOr "network" defaultPortRPC ∈ occupied

theorem start_guarded (occupies : Occupies world occupied) (covered : Covered config occupied)
    (underway : Underway outputDir occupied config [⟨.confirm (.configuration (some config.value)),.ok true⟩,
      ⟨.confirm .stopLiskCoreV3,.ok true⟩,
      ⟨.copyFile (outputDir ++ "/genesis_block.blob") (dest ++ "/genesis_block.blob"),.ok ()⟩] s)
    (stopped : lastCheck s.events = some false) :
    Ends (startLiskCore host world liskCorePath (some config.value) network outputDir) s
      (fun _ t => Safe (Guarded outputDir occupied config) t.events) (fun _ t => Safe (Guarded outputDir occupied config) t.events) := by
  apply ends_handle (fun _ t => Safe (Guarded outputDir occupied config) t.events)
  · have probed : Keeps Aside Store.remembered Ordinary (checkPorts world (some config.value)) :=
      keeps_checkPorts (fun _ _ => ⟨id,rfl⟩)
    have free : Ends (checkPorts world (some config.value)) s
        (fun _ t => Safe (Guarded outputDir occupied config) t.events ∧ Guarded outputDir occupied config t.events)
        (fun _ t => Safe (Guarded outputDir occupied config) t.events) := by
      apply ends_imp (ends_and (probed s) (checkPorts_ends occupies))
      · intro _ t ended
        obtain ⟨follows,networkFree,otherFree⟩ := ended
        have rpcFree : config.rpcPort ∉ occupied := fun taken => (covered taken).elim networkFree otherFree
        have guarded : Guarded outputDir occupied config s.events :=
          ⟨⟨dest,underway.answered _ (by simp)⟩,underway.answered _ (by simp),underway.answered _ (by simp),
            stopped,networkFree,rpcFree⟩
        exact ⟨safe_follows (fun _ => And.left) underway.safe follows,guarded.follows follows⟩
      · exact fun _ _ failed => safe_follows (fun _ => And.left) underway.safe failed.1.1
    apply ends_bind free
    intro _ t guarded
    apply ends_bind (backup_guarded guarded.1 guarded.2)
    intro _ t safe
    apply ends_bind (safe_still safe still_copyLegacyDB)
    exact fun _ _ safe => safe_still safe still_launch
  · exact fun _ _ safe => ends_throw safe

theorem confirmAndStart_guarded (occupies : Occupies world occupied) (covered : Covered config occupied)
    (underway : Underway context.outputDir occupied config [⟨.confirm .stopLiskCoreV3,.ok true⟩,
      ⟨.copyFile (context.outputDir ++ "/genesis_block.blob") (dest ++ "/genesis_block.blob"),.ok ()⟩] s)
    (stopped : lastCheck s.events = some false) :
    Ends (confirmAndStart host world context networkName) s (fun _ t => Safe (Guarded context.outputDir occupied config) t.events)
      (fun _ t => Safe (Guarded context.outputDir occupied config) t.events) := by
  apply ends_bind (ends_readStore ⟨rfl,rfl⟩ : Ends readStore s (fun store t => store = s.store ∧ t = s) _)
  intro store t read
  obtain ⟨rfl,rfl⟩ := read
  rw [underway.configured]
  apply ends_bind (confirm_ends underway (.configuration (some config.value)))
  intro isUserConfirmed u ended
  cases isUserConfirmed with
  | false => exact ends_pure ended.1.safe
  | true => exact start_guarded occupies covered ended.1 (ended.2.trans stopped)

theorem autoStart_guarded (occupies : Occupies world occupied) (covered : Covered config occupied)
    (underway : Underway context.outputDir occupied config [] s) :
    Ends (autoStartLiskCore host world context networkName snapshotDirPath) s
      (fun _ t => Safe (Guarded context.outputDir occupied config) t.events) (fun _ t => Safe (Guarded context.outputDir occupied config) t.events) := by
  have found : Quiet Foreign (execAsync world .whichLiskCore) := keeps_executed (quiet_request fun _ => rfl)
  apply ends_bind (underway_quiet underway found)
  intro liskCoreExecPath t underway
  apply ends_bind (copied_ends underway)
  intro _ t underway
  apply ends_bind (confirm_ends underway .stopLiskCoreV3)
  intro isLiskCoreV3Stopped t ended
  apply ends_ite
  · intro equal
    subst equal
    have awaited : Ends (awaitLiskCoreV3Stopped world context snapshotDirPath 3) t
        (fun _ u => Underway context.outputDir occupied config [⟨.confirm .stopLiskCoreV3,.ok true⟩,
          ⟨.copyFile (context.outputDir ++ "/genesis_block.blob") (_ ++ "/genesis_block.blob"),.ok ()⟩] u ∧
          lastCheck u.events = some false)
        (fun _ u => Safe (Guarded context.outputDir occupied config) u.events ∧ True) :=
      ends_and (underway_quiet ended.1 (quiet_awaitStopped 3)) (await_seen 3 (fun never => absurd never (by simp)))
    apply ends_bind (ends_imp awaited (fun _ _ held => held) (fun _ _ failed => failed.1))
    exact fun _ u held => confirmAndStart_guarded occupies covered held.1 held.2
  · exact fun _ => ends_throw ended.1.safe

end Run

namespace Sample

-- A world in which v3 is stopped, the user agrees to all, and only the ports that
-- are free can be listened on.
def agreeing (free : Json → Bool) : World migrator := fun _ call =>
  match call with
  | .exec _ => .ok ""
  | .copyFile _ _ => .ok ()
  | .confirm _ => .ok true
  | .mkdir _ => .ok ()
  | .rename _ _ => .ok ()
  | .listen port => if free port then .ok () else .error failed
  | call => refused call

end Sample

section Agreeing
variable {host : Host} {free : Json → Bool} {s t : Session migrator Store} {config : PartialApplicationConfig}

def Moved (s : Session migrator Store) : Prop := ∃ event ∈ s.events, Renames event

theorem moved_keeps {may : Event migrator → Prop} {x : Migration α} (moved : Moved s) (keeps : Keeps may view fails x) :
    Ends x s (fun _ t => Moved t) (fun _ t => Moved t) := by
  obtain ⟨event,member,renames⟩ := moved
  apply ends_imp (keeps s)
  · exact fun _ t follows => ⟨event,follows.mem member,renames⟩
  · exact fun _ t failed => ⟨event,failed.1.mem member,renames⟩

theorem agreeing_confirm (question : Question) :
    Ends (settled (ask (Sample.agreeing free) (.confirm question))) s (fun answer t => answer = true ∧ t.store = s.store)
      (fun _ _ => False) := by
  apply ends_settled
  apply ends_ask
  intro reply replied
  cases replied
  exact ⟨rfl,rfl⟩

theorem agreeing_port (taken : free port = true) :
    Ends (requirePort (Sample.agreeing free) port message) s (fun _ _ => True) (fun _ _ => False) := by
  have listened : Ends (isPortAvailable (Sample.agreeing free) port) s (fun available _ => available = true)
      (fun _ _ => False) := by
    apply ends_bind (ends_ask _ (fun _ replied => replied) : Ends (ask (Sample.agreeing free) (.listen port)) s
      (fun reply _ => reply = if free port then .ok () else .error Sample.failed) _)
    intro reply t replied
    rw [if_pos taken] at replied
    cases replied
    exact ends_pure rfl
  apply ends_bind listened
  intro available t equal
  subst equal
  exact ends_pure trivial

theorem agreeing_stopped :
    Ends (isLiskCoreV3Running (Sample.agreeing free) liskCorePath) s
      (fun running t => running = false ∧ t.store.remembered = s.store.remembered) (fun _ _ => False) := by
  have stopped : Ends (isLiskCoreV3Running (Sample.agreeing free) liskCorePath) s (fun running _ => running = false)
      (fun _ _ => False) := by
    apply ends_handle (fun _ _ => True)
    · have refused : Ends (getAPIClient (Sample.agreeing free) liskCorePath true) s (fun _ _ => False) (fun _ _ => True) := by
        apply ends_bind (ends_readStore trivial : Ends readStore s (fun _ _ => True) _)
        intro store t _
        rw [if_pos (.inr rfl)]
        have connected : Ends (settled (ask (Sample.agreeing free) (.createIPCClient liskCorePath))) t (fun _ _ => False)
            (fun _ _ => True) := trivial
        exact ends_bind connected (fun _ _ never => never.elim)
      exact ends_bind refused (fun _ _ never => never.elim)
    · exact fun _ _ _ => ends_pure rfl
  apply ends_imp (ends_and stopped (quiet_isLiskCoreV3Running Ordinary s))
  · exact fun _ _ ended => ⟨ended.1,ended.2.store⟩
  · exact fun _ _ failed => failed.1

theorem agreeing_backup :
    Ends (backupLegacyDataDir host (Sample.agreeing free) liskCorePath) s (fun _ t => Moved t) (fun _ t => Moved t) := by
  have renamed (u : Session migrator Store) (src dest : String) :
      Ends (settled (ask (Sample.agreeing free) (.rename src dest))) u (fun _ t => Moved t) (fun _ t => Moved t) :=
    (⟨_,List.mem_cons_self,trivial⟩ : Moved ⟨⟨.rename src dest,.ok ()⟩ :: u.events,u.store⟩)
  apply ends_handle (fun _ t => Moved t)
  · apply ends_ite
    · intro _
      have made : Ends (settled (ask (Sample.agreeing free) (.mkdir (host.homedir ++ "/.lisk")))) s (fun _ _ => True)
          (fun _ t => Moved t) := trivial
      exact ends_bind made (fun _ u _ => renamed u _ _)
    · exact fun _ => renamed s _ _
  · exact fun _ _ moved => ends_throw moved

theorem agreeing_start (p2p : free (.number config.networkPort) = true)
    (rpc : free (.number (config.portOr "network" defaultPortRPC)) = true) :
    Ends (startLiskCore host (Sample.agreeing free) liskCorePath (some config.value) network outputDir) s
      (fun _ t => Moved t) (fun _ t => Moved t) := by
  apply ends_handle (fun _ t => Moved t)
  · have probed : Ends (checkPorts (Sample.agreeing free) (some config.value)) s (fun _ _ => True) (fun _ _ => False) := by
      unfold checkPorts
      rw [config.port_read (by simp),config.port_read (by simp)]
      exact ends_bind (agreeing_port p2p) (fun _ _ _ => agreeing_port rpc)
    apply ends_bind (ends_imp probed (fun _ _ held => held) (fun _ _ never => never.elim))
    intro _ t _
    apply ends_bind agreeing_backup
    intro _ t moved
    apply ends_bind (moved_keeps moved still_copyLegacyDB)
    exact fun _ _ moved => moved_keeps moved still_launch
  · exact fun _ _ moved => ends_throw moved

-- With both of the probed ports free the data directory is moved.
theorem agreeing_moves (p2p : free (.number config.networkPort) = true)
    (rpc : free (.number (config.portOr "network" defaultPortRPC)) = true) (configured : s.store.configCoreV4 = some config.value) :
    Moved (left (autoStartLiskCore host (Sample.agreeing free) context networkName snapshotDirPath s)) := by
  apply ends_left
  have found : Ends (execAsync (Sample.agreeing free) .whichLiskCore) s (fun _ t => t.store = s.store) (fun _ t => Moved t) := rfl
  apply ends_bind found
  intro liskCoreExecPath t same
  have copied (src dest : String) : Ends (copyGenesisBlock (Sample.agreeing free) src dest) t (fun _ u => u.store = t.store)
      (fun _ t => Moved t) := rfl
  apply ends_bind (copied _ _)
  intro _ u copiedSame
  apply ends_bind (ends_imp (agreeing_confirm .stopLiskCoreV3) (fun _ _ held => held) (fun _ _ never => never.elim))
  intro isLiskCoreV3Stopped v ended
  obtain ⟨rfl,confirmedSame⟩ := ended
  rw [if_pos rfl]
  have awaited : Ends (awaitLiskCoreV3Stopped (Sample.agreeing free) context snapshotDirPath 3) v
      (fun _ w => w.store.remembered = v.store.remembered) (fun _ t => Moved t) := by
    apply ends_bind (ends_imp agreeing_stopped (fun _ _ held => held) (fun _ _ never => never.elim))
    intro running w stopped
    obtain ⟨rfl,remembered⟩ := stopped
    exact ends_pure remembered
  apply ends_bind awaited
  intro _ w remembered
  have recorded : w.store.configCoreV4 = some config.value := by
    have kept : w.store.configCoreV4 = v.store.configCoreV4 := congrArg (fun shown => shown.1.2) remembered
    rw [kept,confirmedSame,copiedSame,same,configured]
  apply ends_bind (ends_readStore ⟨rfl,rfl⟩ : Ends readStore w (fun store t => store = w.store ∧ t = w) _)
  intro store _ given
  obtain ⟨rfl,rfl⟩ := given
  rw [recorded]
  apply ends_bind (ends_imp (agreeing_confirm _) (fun _ _ held => held) (fun _ _ never => never.elim))
  intro isUserConfirmed x answered
  obtain ⟨rfl,_⟩ := answered
  exact agreeing_start p2p rpc

end Agreeing
theorem auto_start_guarded_iff (host : Host) (context : Context) (networkName snapshotDirPath : String)
    (config : PartialApplicationConfig) (occupied : Set Nat) (store : Store) :
    (∀ world events, Occupies world occupied → (∀ event ∈ events, ¬ Renames event) →
      Safe (Guarded context.outputDir occupied config) (left (autoStartLiskCore host world context networkName snapshotDirPath
        ⟨events,{ store with configCoreV4 := some config.value }⟩)).events) ↔ Covered config occupied := by
  classical
  constructor
  · intro safe taken
    by_contra neither
    push Not at neither
    let free (port : Json) : Bool := decide (∀ n ∈ occupied, port ≠ .number n)
    have occupies : Occupies (Sample.agreeing free) occupied := by
      intro events port listened member
      have taken : free (.number port) = false := decide_eq_false (fun outside => outside port member rfl)
      have refused : Sample.agreeing free events (.listen (.number port)) = .error Sample.failed :=
        if_neg (by rw [taken]; exact Bool.false_ne_true)
      rw [refused] at listened
      cases listened
    have outside (port : Nat) (absent : port ∉ occupied) : free (.number port) = true := by
      apply decide_eq_true
      intro n member same
      have equal : port = n := by simpa using same
      exact absent (equal ▸ member)
    let start : Session migrator Store := ⟨[],{ store with configCoreV4 := some config.value }⟩
    have moves : Moved (left (autoStartLiskCore host (Sample.agreeing free) context networkName snapshotDirPath start)) :=
      agreeing_moves (outside _ neither.1) (outside _ neither.2) rfl
    obtain ⟨event,member,renames⟩ := moves
    obtain ⟨earlier,guarded⟩ := safe_rename (safe _ [] occupies (by simp)) member renames
    exact guarded.rpcFree taken
  · intro covered world events occupies still
    have safe : Safe (Guarded context.outputDir occupied config) (events ++ []) := safe_append still trivial
    rw [List.append_nil] at safe
    exact ends_left (autoStart_guarded occupies covered ⟨safe,rfl,by simp⟩)

namespace Sample

-- A configuration that leaves the port for P2P and sets the one for RPC.
def rpcConfig : PartialApplicationConfig where
  value := .object [("network",.object []),("rpc",.object [("port",.number 9999)])]
  ports := by
    intro name known port found
    rcases List.mem_cons.mp known with rfl | known
    · cases found
    · cases List.mem_singleton.mp known
      cases found
      exact ⟨9999,rfl⟩

-- Port 9999 is taken, and no other one.
def otherPort (port : Json) : Bool :=
  match port with
  | .number port => port ≠ 9999
  | _ => true

theorem other_occupies : Occupies (agreeing otherPort) {9999} := by
  intro events port listened member
  cases Set.mem_singleton_iff.mp member
  cases listened

def onlineContext : Context :=
  ⟨⟨some "/out",none,103,none,true,true,1,none,none,none⟩,"/home/lisk/.lisk/lisk-core",none,false,"mainnet",none,"/out",
    "/opt/migrator/data"⟩

def takenRun : Session migrator Store :=
  left (autoStartLiskCore host (agreeing otherPort) onlineContext "mainnet" "/snapshot"
    ⟨[],{ Store.fresh with configCoreV4 := some rpcConfig.value }⟩)

end Sample

theorem rpc_port_unchecked :
    Occupies (Sample.agreeing Sample.otherPort) {9999} ∧ ¬ Safe (Guarded "/out" {9999} Sample.rpcConfig) Sample.takenRun.events := by
  refine ⟨Sample.other_occupies,?_⟩
  intro safe
  have p2p : Sample.otherPort (.number Sample.rpcConfig.networkPort) = true := by decide
  have rpc : Sample.otherPort (.number (Sample.rpcConfig.portOr "network" defaultPortRPC)) = true := by decide
  have moves : Moved Sample.takenRun := agreeing_moves p2p rpc rfl
  obtain ⟨event,member,renames⟩ := moves
  obtain ⟨earlier,guarded⟩ := safe_rename safe member renames
  exact guarded.rpcFree rfl

end LiskMigrator
