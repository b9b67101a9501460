import LiskMigrator.Checksums

namespace LiskMigrator
open FileTree Interaction Monitor Outcome Runs Words

section Places
variable (host : Host) (outputDir dataDir : String)

-- A path of an entry of the directory.
def Below (path : String) : Prop := ∃ name, locate host path = locate host outputDir ++ [name]

-- What a run on a snapshot may ask. It reads what it likes, but it writes only
-- entries of the output directory and below the data directory, apart from what
-- the two programs of v4 do, and it asks a node only for the network.
inductive Confined (named : Bool) : Request → Prop where
  | createIPCClient (path : String) : named = false → Confined named (.createIPCClient path)
  | getNodeInfo (path : String) : named = false → Confined named (.getNodeInfo path)
  | ensureDir : Confined named (.ensureDir outputDir)
  | download (url path : String) : Below host outputDir path → Confined named (.download url path)
  | write (path content : String) : Below host outputDir path → Confined named (.write path content)
  | writeGenesisAssets (path : String) (assets : List GenesisAssetEntry) :
      Below host outputDir path → Confined named (.writeGenesisAssets path assets)
  | createTarball (path : String) : Confined named (.createTarball path outputDir)
  | extractTarBall (src : String) : Confined named (.extractTarBall src dataDir)
  | openDatabase (path : String) : Confined named (.openDatabase path)
  | access (path : String) : Confined named (.access path)
  | getFiles (path : String) : Confined named (.getFiles path)
  | read (path : String) : Confined named (.read path)
  | readJSON (path : String) : Confined named (.readJSON path)
  | readDefaultConfig (path : String) : Confined named (.readDefaultConfig path)
  | createChecksum (path : String) : Confined named (.createChecksum path)
  | installLiskCore : Confined named (.exec .installLiskCore)
  | createGenesisBlock (command : String) : Confined named (.exec (.createGenesisBlock command))

def Artefact.Within : Artefact → Prop
  | .checksum _ => True
  | .note path => Below host outputDir path
  | .tarball _ dir => dir = outputDir

end Places

section Steps
variable {host : Host} {packages : Packages} {rounds : Nat} {flags : Flags} {context : Context} {stage next : Stage}
  {event : Event migrator} {events : List (Event migrator)} {named : Bool}

theorem resolve_below {name : String} (entry : Path.EntryName name) (dir : String) : Below host dir (Path.resolve host.cwd [dir,name]) :=
  ⟨name,locate_resolve entry dir⟩

theorem artefacts_within (outputDir : String) : ∀ artefact ∈ artefacts host outputDir, artefact.Within host outputDir := by
  have filed {fileName : String} (note : Path.EntryName (fileName ++ ".SHA256")) (tarballNote : Path.EntryName (fileName ++ ".tar.gz.SHA256")) :
      ∀ artefact ∈ fileArtefacts host outputDir fileName, artefact.Within host outputDir := by
    intro artefact member
    unfold fileArtefacts at member
    simp only [List.mem_cons,List.not_mem_nil,or_false] at member
    rcases member with rfl | rfl | rfl | rfl | rfl
    · trivial
    · exact resolve_below note outputDir
    · rfl
    · trivial
    · exact resolve_below tarballNote outputDir
  intro artefact member
  rcases List.mem_append.mp member with blob | json
  · exact filed (by decide +kernel) (by decide +kernel) artefact blob
  · exact filed (by decide +kernel) (by decide +kernel) artefact json

-- What is left to do of the files is the rest of what there was to do.
def Stage.Rest (whole : List Artefact) : Stage → Prop
  | .publishing todo _ => todo <:+ whole
  | _ => True

theorem publishingStep_rest {whole : List Artefact} (stepped : publishingStep context stage event = some next) (rest : stage.Rest whole) :
    next.Rest whole := by
  unfold publishingStep at stepped
  split at stepped
  all_goals simp only [taking_some,reduceCtorEq] at stepped
  all_goals
    obtain ⟨_,rfl⟩ := stepped
    apply settling_holds trivial
    intro _ _
  all_goals first
    | exact (List.suffix_cons _ _).trans rest
    | exact rest
    | trivial

theorem publishing_kept {whole : List Artefact} (ran : run (publishingStep context) (.publishing whole "") events = some next) :
    next.Rest whole := by
  apply run_history _ _ ran
  · exact List.suffix_rfl
  · exact fun _ _ _ _ _ stepped rest => publishingStep_rest stepped rest

theorem publishing_rest {todo : List Artefact} {hash : String} (publishing : Publishing host context events todo hash) :
    todo <:+ artefacts host context.outputDir := by
  obtain ⟨_,_,_,published,_,ran⟩ := publishing
  exact publishing_kept ran

theorem offline_quiet (offline : context.useSnapshot = true) : context.migratesConfig = false ∧ context.startsCore = false := by
  simp [Context.migratesConfig,Context.startsCore,offline]

theorem offline_source (offline : context.useSnapshot = true) : context.source ≠ .node := by
  unfold Context.source
  rw [if_pos offline]
  split
  · exact nofun
  · split <;> exact nofun

theorem source_given (offline : context.useSnapshot = true) (source : context.source = .url url) :
    given context.flags.snapshotURL = true := by
  unfold Context.source Context.snapshotURL at source
  rw [if_pos offline] at source
  cases named : context.flags.snapshotURL with
  | none =>
    rw [named] at source
    split at source
    · rename_i starts
      exact absurd starts (by decide)
    · split at source <;> cases source
  | some text =>
    rw [named] at source
    split at source
    · rename_i starts
      by_cases bare : text = ""
      · rw [bare] at starts
        exact absurd starts (by decide)
      · exact decide_eq_true bare
    · split at source <;> cases source

theorem closing_confined (stepped : closingStep host context stage event = some next) :
    Confined host context.outputDir context.dataDir named event.call := by
  obtain ⟨_,winding⟩ := closingStep_winding stepped
  cases request : event.call with
  | access => exact .access _
  | readJSON => exact .readJSON _
  | write path content =>
    rw [request] at winding
    cases winding
    exact .write _ _ (resolve_below (by decide +kernel) context.outputDir)
  | _ =>
    rw [request] at winding
    cases winding

theorem downloaded_below {url : String} (entry : Path.EntryName (urlName url)) (dir : String) : Below host dir (downloadedFilePath url dir) :=
  ⟨urlName url,locate_join entry dir⟩

theorem preparing_confined (offline : context.useSnapshot = true)
    (formed : ∀ url, context.source = .url url → endsWith context.snapshotURL "tar.gz" = true) (checked : stage.Checked context events)
    (stepped : preparingStep context stage event = some next) : Confined host context.outputDir context.dataDir named event.call := by
  have entries (url : String) (source : context.source = .url url) :
      Path.EntryName (urlName context.snapshotURL) ∧ Path.EntryName (urlName (context.snapshotURL ++ ".SHA256")) := by
    obtain ⟨entry,longer⟩ := tarball_entry (formed url source)
    exact ⟨entry,(urlName_longer (by decide : '/' ∉ checksumSuffix.toList) context.snapshotURL).symm ▸ longer⟩
  unfold preparingStep at stepped
  split at stepped
  all_goals simp only [taking_some,reduceCtorEq] at stepped
  all_goals obtain ⟨holds,_⟩ := stepped
  · obtain ⟨remote,rfl⟩ := holds
    exact .download _ _ (downloaded_below (entries _ remote).1 context.outputDir)
  · exact holds.2 ▸ .extractTarBall _
  · exact absurd holds.1 (offline_source offline)
  · exact absurd holds.1 (offline_source offline)
  · exact absurd holds.1 (offline_source offline)
  · exact absurd holds.1 (offline_source offline)
  · obtain ⟨rfl,rfl⟩ := holds
    obtain ⟨_,source,_⟩ := checked
    exact .download _ _ (downloaded_below (entries _ source).2 context.outputDir)
  · exact .read _
  · exact .createChecksum _
  · exact holds.2 ▸ .extractTarBall _

theorem making_confined (offline : context.useSnapshot = true) (stepped : makingStep host packages rounds context stage event = some next) :
    Confined host context.outputDir context.dataDir named event.call := by
  have off := (offline_quiet offline).1
  unfold makingStep at stepped
  split at stepped
  all_goals simp only [taking_some,reduceCtorEq,Option.some.injEq,off,Bool.false_eq_true,false_and] at stepped
  · exact .getFiles _
  · exact .openDatabase _
  · exact .openDatabase _
  · exact .readDefaultConfig _
  · obtain ⟨⟨rfl,_⟩,_⟩ := stepped
    exact .writeGenesisAssets _ _ (resolve_below (by decide +kernel) context.outputDir)
  · exact .installLiskCore
  · exact .createGenesisBlock _

theorem publishing_confined (offline : context.useSnapshot = true) (knows : stage.Knows host packages rounds context events)
    (stepped : publishingStep context stage event = some next) : Confined host context.outputDir context.dataDir named event.call := by
  have off := (offline_quiet offline).2
  have within {todo : List Artefact} {hash : String} (publishing : Publishing host context events todo hash) :
      ∀ artefact ∈ todo, artefact.Within host context.outputDir :=
    fun artefact member => artefacts_within context.outputDir artefact ((publishing_rest publishing).subset member)
  unfold publishingStep at stepped
  split at stepped
  all_goals simp only [taking_some,reduceCtorEq,off,Bool.false_eq_true,false_and] at stepped
  · exact .createChecksum _
  · obtain ⟨⟨rfl,_⟩,_⟩ := stepped
    exact .write _ _ (within knows _ List.mem_cons_self)
  · obtain ⟨⟨_,rfl⟩,_⟩ := stepped
    have same := within knows _ List.mem_cons_self
    exact (show _ = context.outputDir from same) ▸ .createTarball _

theorem starting_confined (offline : context.useSnapshot = true) (knows : stage.Knows host packages rounds context events)
    (stepped : startingStep host context stage event = some next) : Confined host context.outputDir context.dataDir named event.call := by
  have off := (offline_quiet offline).2
  have never : context.startsCore ≠ true := fun on => Bool.false_ne_true (off.symm.trans on)
  unfold startingStep at stepped
  split at stepped <;> first | exact absurd knows.1 never | cases stepped

theorem stage_confined (offline : context.useSnapshot = true)
    (formed : ∀ url, context.source = .url url → endsWith context.snapshotURL "tar.gz" = true) (checked : stage.Checked context events)
    (knows : stage.Knows host packages rounds context events) (stepped : stageStep host packages rounds context stage event = some next) :
    Confined host context.outputDir context.dataDir named event.call := by
  rcases stageStep_cases stepped with closing | preparing | making | publishing | starting
  · exact closing_confined closing
  · exact preparing_confined offline formed checked preparing
  · exact making_confined offline making
  · exact publishing_confined offline knows publishing
  · exact starting_confined offline knows starting

end Steps

section Results
variable {host : Host} {packages : Packages} {rounds : Nat} {flags : Flags} {world : World migrator} {events : List (Event migrator)}
  {q next : Progress} {event : Event migrator}

-- Before the network is known a node is asked for it, unless the flags name it.
def Progress.Asks (flags : Flags) : Progress → Prop
  | .entering => given flags.network = false
  | _ => True

theorem start_asks : (protocolStart host flags).Asks flags := by
  unfold protocolStart
  split
  · split
    · split <;> trivial
    · rename_i unnamed
      exact Bool.eq_false_iff.mpr unnamed
  · trivial

theorem protocol_asks (stepped : protocol host packages rounds flags q event = some next) (asks : q.Asks flags) : next.Asks flags := by
  unfold protocol at stepped
  split at stepped
  · obtain ⟨_,rfl⟩ := taking_some.mp stepped
    split
    · exact asks
    · trivial
  · obtain ⟨_,rfl⟩ := taking_some.mp stepped
    split <;> trivial
  · rename_i reply
    obtain ⟨_,rfl⟩ := taking_some.mp stepped
    cases reply <;> trivial
  · obtain ⟨_,_,rfl⟩ := Option.map_eq_some_iff.mp stepped
    trivial
  · cases stepped

theorem ran_asks (ran : run (protocol host packages rounds flags) (protocolStart host flags) events = some q) : q.Asks flags := by
  apply run_history _ _ ran
  · exact start_asks
  · exact fun _ _ _ _ _ stepped asks => protocol_asks stepped asks

theorem protocol_confined (offline : useSnapshotOf host flags = true)
    (ran : run (protocol host packages rounds flags) (protocolStart host flags) events = some q)
    (stepped : protocol host packages rounds flags q event = some next) :
    ∃ networkIdentifier, Confined host (outputDirOf host flags networkIdentifier) (Path.join [host.dirname,"..",defaultDataDir])
      (given flags.network) event.call := by
  have asks := ran_asks ran
  unfold protocol at stepped
  split at stepped
  · exact ⟨"",.createIPCClient _ asks⟩
  · exact ⟨"",.getNodeInfo _ asks⟩
  · rename_i networkIdentifier path reply
    obtain ⟨rfl,_⟩ := taking_some.mp stepped
    exact ⟨networkIdentifier,.ensureDir⟩
  · rename_i context stage event
    obtain ⟨networkIdentifier,rfl⟩ := ran_from ran
    obtain ⟨onward,taken,_⟩ := Option.map_eq_some_iff.mp stepped
    have formed : ∀ url, (contextOf host flags networkIdentifier).source = .url url →
        endsWith (contextOf host flags networkIdentifier).snapshotURL "tar.gz" = true := by
      intro url source
      exact (accepted_url networkIdentifier (ran_accepted ran) (source_given offline source)).2
    exact ⟨networkIdentifier,stage_confined offline formed (ran_checked ran) (ran_knows ran) taken⟩
  · cases stepped

end Results
end LiskMigrator
