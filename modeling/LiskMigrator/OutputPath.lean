import LiskMigrator.Disk

namespace LiskMigrator
open FileTree Interaction Outcome Words

section Reserved
variable (host : Host)

def absLiskCorePath : String := resolveAbsolutePath host defaultLiskCorePath

def liskCoreLocation : Location := home host ++ [".lisk","lisk-core"]

-- The file system takes the path as it is given: a `~` is a name to it.
def Inside (path : String) : Prop := liskCoreLocation host <+: locate host path

-- A text that is spelled segment for segment like the path of the directory, up to
-- a last name that only has to start with the directory's own.
def Spelled (text : String) : Prop := ∃ name rest,
  Path.segments text = (Path.segments (absLiskCorePath host)).dropLast ++ name :: rest ∧ startsWith name "lisk-core" = true

-- The spellings by which the check knows a place, one for each branch of
-- resolveAbsolutePath. A relative path is known by its location, if the path of
-- the directory is in normal form and leads up to a name that the location has.
def Recognised (path : String) : Prop :=
  if Path.isAbsolute path then Spelled host path
  else if startsWith path "~" then Spelled host (replaceTilde host.homedir (String.ofList (path.toList.drop 1)))
  else Path.Normal (absLiskCorePath host) ∧ ∃ name rest,
    locate host path = (locate host (absLiskCorePath host)).dropLast ++ name :: rest ∧ startsWith name "lisk-core" = true

-- The text opens with a path in normal form that leads to the directory, or to one
-- beside it with a longer name.
def OpensNormally (text : String) : Prop := ∃ opening rest name,
  Path.segments text = Path.segments opening ++ rest ∧ Path.Normal opening ∧
    locate host opening = home host ++ [".lisk",name] ∧ startsWith name "lisk-core" = true

-- The same, where the path of the directory is in normal form itself.
def PlainlyRecognised (path : String) : Prop :=
  if Path.isAbsolute path then OpensNormally host path
  else if startsWith path "~" then OpensNormally host (host.homedir ++ String.ofList (path.toList.drop 1))
  else True

instance {path : String} : Decidable (Inside host path) := inferInstanceAs (Decidable (_ <+: _))

end Reserved

section Check
variable {host : Host} {path : String}

theorem absLiskCorePath_text : absLiskCorePath host =
    String.ofList (replacement ['~'] [] "/.lisk/lisk-core".toList host.homedir.toList) ++ "/.lisk" ++ "/" ++ "lisk-core" := by
  rw [String.append_assoc,String.append_assoc]
  rfl

theorem absLiskCorePath_plain (plain : Patternless host.homedir.toList) : absLiskCorePath host = host.homedir ++ "/.lisk/lisk-core" :=
  replaceTilde_plain plain "/.lisk/lisk-core"

theorem locate_liskCore (plain : Patternless host.homedir.toList) : locate host (absLiskCorePath host) = liskCoreLocation host := by
  rw [absLiskCorePath_plain plain]
  exact locate_below (by decide +kernel) (by decide +kernel : Path.segments ".lisk/lisk-core" = [".lisk","lisk-core"]) host.homedir

theorem inside_filled (inside : Inside host path) : locate host path ≠ [] := by
  obtain ⟨rest,below⟩ := inside
  rw [← below]
  simp [liskCoreLocation]

theorem verifyOutputPath_none :
    verifyOutputPath host path = none ↔ ¬ startsWith (resolveAbsolutePath host path) (absLiskCorePath host) = true := by
  unfold verifyOutputPath absLiskCorePath
  dsimp only
  split
  · rename_i refused
    exact ⟨fun passed => absurd passed (by simp),fun accepted => absurd refused accepted⟩
  · rename_i accepted
    exact ⟨fun _ => accepted,fun _ => rfl⟩

-- The text of a location is known by the names of the location.
theorem located_known (filled : locate host path ≠ []) (closing : ending = "" ∨ ending = "/") :
    startsWith ("/" ++ "/".intercalate (locate host path) ++ ending) (absLiskCorePath host) = true ↔
      Path.Normal (absLiskCorePath host) ∧ ∃ name rest,
        locate host path = (locate host (absLiskCorePath host)).dropLast ++ name :: rest ∧ startsWith name "lisk-core" = true := by
  have known := Path.normal_start_iff filled (locate_names path) closing (by decide +kernel : Path.EntryName "lisk-core")
    (String.ofList (replacement ['~'] [] "/.lisk/lisk-core".toList host.homedir.toList) ++ "/.lisk")
  rw [← absLiskCorePath_text] at known
  rw [known]
  apply and_congr_right
  intro normal
  rw [locate_absolute (Path.normal_absolute normal)]

theorem startsWith_spelled (text : String) : startsWith text (absLiskCorePath host) = true ↔ Spelled host text := by
  have known := Path.startsWith_segments (by decide +kernel : '/' ∉ "lisk-core".toList)
    (String.ofList (replacement ['~'] [] "/.lisk/lisk-core".toList host.homedir.toList) ++ "/.lisk") text
  have front : (Path.segments (absLiskCorePath host)).dropLast =
      Path.segments (String.ofList (replacement ['~'] [] "/.lisk/lisk-core".toList host.homedir.toList) ++ "/.lisk") := by
    rw [absLiskCorePath_text,Path.segments_append,(by decide +kernel : Path.segments "lisk-core" = ["lisk-core"]),List.dropLast_concat]
  unfold Spelled
  rw [front,← known,← absLiskCorePath_text]

theorem verifyOutputPath_known (absolute : Path.isAbsolute host.cwd = true) (inside : Inside host path) :
    verifyOutputPath host path = none ↔ ¬ Recognised host path := by
  rw [verifyOutputPath_none,not_iff_not]
  unfold Recognised resolveAbsolutePath
  split
  · exact startsWith_spelled path
  · rename_i relative
    split
    · exact startsWith_spelled _
    · obtain ⟨ending,closing,joined⟩ := join_located absolute (Bool.eq_false_iff.mpr relative)
      rw [joined]
      exact located_known (inside_filled inside) closing

-- A place in the directory has the names that the normal path of it asks for.
theorem inside_named (plain : Patternless host.homedir.toList) (inside : Inside host path) : ∃ name rest,
    locate host path = (locate host (absLiskCorePath host)).dropLast ++ name :: rest ∧ startsWith name "lisk-core" = true := by
  obtain ⟨rest,below⟩ := inside
  have front : (liskCoreLocation host).dropLast = home host ++ [".lisk"] := by
    unfold liskCoreLocation
    rw [List.append_cons,List.dropLast_concat]
  refine ⟨"lisk-core",rest,?_,by decide +kernel⟩
  rw [locate_liskCore plain,front,← below,liskCoreLocation,List.append_assoc,List.append_assoc]
  rfl

theorem lisk_name {name : String} (plain : '/' ∉ name.toList) (starts : startsWith name "lisk-core" = true) : Path.EntryName name := by
  have apart {other : String} (short : startsWith other "lisk-core" = false) : name ≠ other := by
    intro same
    rw [same,short] at starts
    cases starts
  exact ⟨apart (by decide +kernel),apart (by decide +kernel),apart (by decide +kernel),plain⟩

theorem home_names (host : Host) : ∀ name ∈ home host, Path.EntryName name := locate_names _

-- The segments that a spelling has to have are the names up to the directory.
theorem spelled_opens (plain : Patternless host.homedir.toList) (reserved : Path.Normal (host.homedir ++ "/.lisk/lisk-core"))
    (text : String) : Spelled host text ↔ OpensNormally host text := by
  have located : Path.walk true (host.homedir ++ "/.lisk/lisk-core") = liskCoreLocation host := by
    rw [← locate_liskCore plain,absLiskCorePath_plain plain,locate_absolute (Path.normal_absolute reserved)]
  have front : (Path.segments (absLiskCorePath host)).dropLast = "" :: (home host ++ [".lisk"]) := by
    rw [absLiskCorePath_plain plain,Path.normal_segments reserved (by simp [located,liskCoreLocation]),located,liskCoreLocation,
      List.append_cons,← List.cons_append,List.dropLast_concat]
  have named {name : String} (entry : Path.EntryName name) : ∀ segment ∈ home host ++ [".lisk",name], Path.EntryName segment := by
    intro segment member
    rcases List.mem_append.mp member with above | below
    · exact home_names host segment above
    · rcases List.mem_cons.mp below with rfl | last
      · decide +kernel
      · exact (List.mem_singleton.mp last) ▸ entry
  have split (name : String) (rest : List String) :
      "" :: (home host ++ [".lisk"]) ++ name :: rest = "" :: (home host ++ [".lisk",name]) ++ rest := by simp
  constructor
  · intro spelled
    obtain ⟨name,rest,segments,starts⟩ := spelled
    have member : name ∈ Path.segments text := segments ▸ List.mem_append_right _ List.mem_cons_self
    have all := named (lisk_name (Path.segments_plain text name member) starts)
    refine ⟨"/" ++ "/".intercalate (home host ++ [".lisk",name]),rest,name,?_,Path.normal_text _ all,?_,starts⟩
    · rw [segments,front,split,Path.segments_names (by simp) all]
    · rw [locate_absolute (Path.normal_absolute (Path.normal_text _ all)),Path.walk_text _ all]
  · intro opens
    obtain ⟨opening,rest,name,segments,normal,leads,starts⟩ := opens
    rw [locate_absolute (Path.normal_absolute normal)] at leads
    refine ⟨name,rest,?_,starts⟩
    rw [segments,front,split,Path.normal_segments normal (by simp [leads]),leads]

theorem recognised_plain (plain : Patternless host.homedir.toList) (reserved : Path.Normal (host.homedir ++ "/.lisk/lisk-core"))
    (inside : Inside host path) : Recognised host path ↔ PlainlyRecognised host path := by
  unfold Recognised PlainlyRecognised
  rw [replaceTilde_plain plain]
  split
  · exact spelled_opens plain reserved path
  · split
    · exact spelled_opens plain reserved _
    · have named := inside_named plain inside
      rw [absLiskCorePath_plain plain] at named ⊢
      exact iff_of_true ⟨reserved,named⟩ trivial

-- With both paths in normal form the check misses nothing.
theorem normal_refused (plain : Patternless host.homedir.toList) (normal : Path.Normal path)
    (reserved : Path.Normal (host.homedir ++ "/.lisk/lisk-core")) (inside : Inside host path) :
    verifyOutputPath host path ≠ none := by
  have absolute := Path.normal_absolute normal
  have text : "/" ++ "/".intercalate (locate host path) ++ "" = path := by
    rw [String.append_empty,locate_absolute absolute]
    exact normal.symm
  rw [← absLiskCorePath_plain plain] at reserved
  have known := (located_known (inside_filled inside) (.inl rfl)).mpr ⟨reserved,inside_named plain inside⟩
  rw [text] at known
  rw [Ne,verifyOutputPath_none,not_not]
  unfold resolveAbsolutePath
  rw [if_pos absolute]
  exact known

-- The second part reads the spellings for a home directory as it usually is.
theorem output_path_iff (absolute : Path.isAbsolute host.cwd = true) (path : String) :
    ((verifyOutputPath host path = none → ¬ Inside host path) ↔ (Inside host path → Recognised host path)) ∧
      (Patternless host.homedir.toList → Path.Normal (host.homedir ++ "/.lisk/lisk-core") → Inside host path →
        (Recognised host path ↔ PlainlyRecognised host path)) := by
  refine ⟨?_,recognised_plain⟩
  constructor
  · intro safe inside
    by_contra unknown
    exact safe ((verifyOutputPath_known absolute inside).mpr unknown) inside
  · intro recognised accepted inside
    exact (verifyOutputPath_known absolute inside).mp accepted (recognised inside)

end Check

section Entered
variable {host : Host} {world : World migrator} {flags : Flags} {path : String} {s t : Session migrator Store}

theorem raise_ends {message : String} : Ends (raise message : Migration α) s (fun _ _ => False) (fun _ _ => True) :=
  ends_throw trivial

theorem checkFlags_ends (useSnapshot : Bool) (outputPath : String) :
    Ends (checkFlags host flags useSnapshot outputPath) s (fun _ _ => verifyOutputPath host outputPath = none) (fun _ _ => True) := by
  apply ends_bind ends_any
  intro _ t _
  apply ends_bind ends_any
  intro _ t _
  cases verified : verifyOutputPath host outputPath with
  | some refused => exact ends_imp raise_ends (fun _ _ never => never.elim) (fun _ _ _ => trivial)
  | none => exact ends_pure rfl

-- The directory that run makes and writes is the flag's value itself.
theorem enterRun_output (chosen : flags.output = some path) (filled : path ≠ "") :
    Ends (enterRun host world flags) s (fun context _ => context.outputDir = path ∧ verifyOutputPath host path = none)
      (fun _ _ => True) := by
  apply ends_bind (checkFlags_ends _ _)
  intro _ t verified
  rw [chosen,Option.getD_some] at verified
  apply ends_bind ends_any
  intro networkIdentifier t _
  apply ends_bind ends_any
  intro _ t _
  refine ends_pure ⟨?_,verified⟩
  simp [chosen,given,filled]

-- A run that gets past its checks writes outside the directory, as long as the
-- check knows the spelling.
theorem entered_outside (absolute : Path.isAbsolute host.cwd = true) (chosen : flags.output = some path) (filled : path ≠ "")
    (recognised : Inside host path → Recognised host path) (entered : enterRun host world flags s = .ok context t) :
    ¬ Inside host context.outputDir := by
  obtain ⟨same,accepted⟩ := ends_ok (enterRun_output chosen filled) entered
  rw [same]
  intro inside
  exact (verifyOutputPath_known absolute inside).mp accepted (recognised inside)

end Entered

namespace Sample

def homely : Host := { host with cwd := "/home/lisk" }

def within : Host := { host with cwd := "/home/lisk/.lisk/lisk-core" }

def rootHome : Host := { host with homedir := "/", cwd := "/" }

end Sample

theorem output_path_sample :
    Inside Sample.homely "output/../.lisk/lisk-core/data" ∧
    ((verifyOutputPath Sample.homely "output/../.lisk/lisk-core/data" = none →
        ¬ Inside Sample.homely "output/../.lisk/lisk-core/data") ↔
      (Inside Sample.homely "output/../.lisk/lisk-core/data" → Recognised Sample.homely "output/../.lisk/lisk-core/data")) ∧
    (Recognised Sample.homely "output/../.lisk/lisk-core/data" ↔ PlainlyRecognised Sample.homely "output/../.lisk/lisk-core/data") := by
  have inside : Inside Sample.homely "output/../.lisk/lisk-core/data" := by decide +kernel
  have both := output_path_iff (by decide +kernel : Path.isAbsolute Sample.homely.cwd = true) "output/../.lisk/lisk-core/data"
  exact ⟨inside,both.1,both.2 (by decide +kernel) (by decide +kernel) inside⟩

-- One spelling for each branch: two slashes, a name beside the home directory, and
-- a home directory whose path ends in a slash.
theorem reserved_reached :
    (verifyOutputPath Sample.host "/home/lisk//.lisk/lisk-core/output" = none ∧
      Inside Sample.host "/home/lisk//.lisk/lisk-core/output") ∧
    (verifyOutputPath Sample.within "~/output" = none ∧ Inside Sample.within "~/output") ∧
    (verifyOutputPath Sample.rootHome ".lisk/lisk-core/output" = none ∧ Inside Sample.rootHome ".lisk/lisk-core/output") := by
  decide +kernel

end LiskMigrator
