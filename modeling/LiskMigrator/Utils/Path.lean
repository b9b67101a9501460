import LiskMigrator.Constants
import LiskMigrator.Library.Json
import LiskMigrator.Library.Words

namespace LiskMigrator
open Words

-- What the program reads of the process and of the machine that it runs on.
-- `dirname` is __dirname of the entry file, and mergeDeep and the two functions
-- on versions come from packages.
structure Host where
  homedir : String
  cwd : String
  dirname : String
  mergeDeep : Json → Json → Json
  validVersion : String → Bool
  versionBefore : String → String → Bool

-- Node's path module, in its posix form.
namespace Path

def isAbsolute (path : String) : Bool := startsWith path "/"

def segments (path : String) : List String := (path.toList.splitOn '/').map String.ofList

-- One segment after those that stand, the last one first. Above the root there
-- is nothing; above the start of a relative path there is.
def enter (rooted : Bool) (standing : List String) (segment : String) : List String :=
  if segment = "" ∨ segment = "." then standing
  else if segment = ".." then
    match standing with
    | [] => if rooted then [] else [".."]
    | last :: before => if last = ".." then ".." :: last :: before else before
  else segment :: standing

def walk (rooted : Bool) (path : String) : List String := ((segments path).foldl (enter rooted) []).reverse

def normalize (path : String) : String :=
  let rooted := isAbsolute path
  let walked := "/".intercalate (walk rooted path)
  let body := if walked = "" ∧ ¬ rooted then "." else walked
  let body := if endsWith path "/" ∧ body ≠ "" then body ++ "/" else body
  if rooted then "/" ++ body else body

def join (paths : List String) : String :=
  let joined := "/".intercalate (paths.filter (· ≠ ""))
  if joined = "" then "." else normalize joined

-- The last absolute one of the paths, or else the current directory, is where
-- the others start.
def resolve (cwd : String) (paths : List String) : String :=
  let path := paths.foldl (fun path next => if isAbsolute next then next else path ++ "/" ++ next) cwd
  "/" ++ "/".intercalate (walk true path)

example : join ["/opt/migrator/dist","..","output"] = "/opt/migrator/output" := by decide +kernel

theorem segments_append (path rest : String) : segments (path ++ "/" ++ rest) = segments path ++ segments rest := cutAt_append rfl path rest

theorem segments_name {name : String} (plain : '/' ∉ name.toList) : segments name = [name] := cutAt_single plain

theorem splitOn_plain (chars : List Char) : ∀ part ∈ chars.splitOn '/', '/' ∉ part := by
  induction chars with
  | nil => simp
  | cons c chars ih =>
    rw [List.splitOn_cons_eq_if_modifyHead]
    split
    · intro part member
      rcases List.mem_cons.mp member with rfl | later
      · exact List.not_mem_nil
      · exact ih part later
    · rename_i letter
      cases parts : chars.splitOn '/' with
      | nil => exact absurd parts (List.splitOn_ne_nil _ _)
      | cons first more =>
        rw [parts] at ih
        intro part member
        rcases List.mem_cons.mp member with rfl | later
        · intro slash
          rcases List.mem_cons.mp slash with same | inside
          · exact letter (beq_iff_eq.mpr same.symm)
          · exact ih first List.mem_cons_self inside
        · exact ih part (List.mem_cons_of_mem first later)

theorem segments_plain (path : String) : ∀ segment ∈ segments path, '/' ∉ segment.toList := by
  intro segment member
  obtain ⟨part,inParts,rfl⟩ := List.mem_map.mp member
  rw [String.toList_ofList]
  exact splitOn_plain path.toList part inParts

-- A segment that stands for an entry of a directory.
structure EntryName (segment : String) : Prop where
  filled : segment ≠ ""
  notHere : segment ≠ "."
  notUp : segment ≠ ".."
  plain : '/' ∉ segment.toList

instance {segment : String} : Decidable (EntryName segment) :=
  decidable_of_iff (segment ≠ "" ∧ segment ≠ "." ∧ segment ≠ ".." ∧ '/' ∉ segment.toList)
    ⟨fun all => ⟨all.1,all.2.1,all.2.2.1,all.2.2.2⟩,fun name => ⟨name.filled,name.notHere,name.notUp,name.plain⟩⟩

theorem enter_name {segment : String} (name : EntryName segment) (rooted : Bool) (standing : List String) :
    enter rooted standing segment = segment :: standing := by
  unfold enter
  rw [if_neg (by simp [name.filled,name.notHere]),if_neg name.notUp]

theorem enter_names {names : List String} (all : ∀ segment ∈ names, EntryName segment) (rooted : Bool) (standing : List String) :
    names.foldl (enter rooted) standing = names.reverse ++ standing := by
  induction names generalizing standing with
  | nil => rfl
  | cons name names ih =>
    rw [List.foldl_cons,enter_name (all name List.mem_cons_self),ih (fun other member => all other (List.mem_cons_of_mem name member)),
      List.reverse_cons,List.append_assoc,List.singleton_append]

theorem walk_append (rooted : Bool) (path rest : String) :
    walk rooted (path ++ "/" ++ rest) = ((segments rest).foldl (enter rooted) (walk rooted path).reverse).reverse := by
  unfold walk
  rw [segments_append,List.foldl_append,List.reverse_reverse]

theorem walk_slash (rooted : Bool) (path : String) : walk rooted (path ++ "/") = walk rooted path := by
  have walked := walk_append rooted path ""
  have skipped : enter rooted (walk rooted path).reverse "" = (walk rooted path).reverse := if_pos (.inl rfl)
  rw [String.append_empty,segments_name (by simp),List.foldl_cons,List.foldl_nil,skipped,List.reverse_reverse] at walked
  exact walked

theorem walk_below {names : List String} (all : ∀ segment ∈ names, EntryName segment) (spelled : segments rest = names)
    (rooted : Bool) (path : String) : walk rooted (path ++ "/" ++ rest) = walk rooted path ++ names := by
  rw [walk_append,spelled,enter_names all,List.reverse_append,List.reverse_reverse,List.reverse_reverse]

theorem enter_rooted {segment : String} (plain : '/' ∉ segment.toList) (all : ∀ standing ∈ names, EntryName standing) :
    ∀ standing ∈ enter true names segment, EntryName standing := by
  unfold enter
  split
  · exact all
  · rename_i filled
    split
    · cases names with
      | nil => exact all
      | cons last before =>
        simp only [if_neg (all last List.mem_cons_self).notUp]
        exact fun standing member => all standing (List.mem_cons_of_mem last member)
    · rename_i notUp
      intro standing member
      rcases List.mem_cons.mp member with rfl | earlier
      · exact ⟨fun empty => filled (.inl empty),fun here => filled (.inr here),notUp,plain⟩
      · exact all standing earlier

-- From the root there are only names.
theorem walk_names (path : String) : ∀ segment ∈ walk true path, EntryName segment := by
  have kept (parts names : List String) (plain : ∀ part ∈ parts, '/' ∉ part.toList) (all : ∀ standing ∈ names, EntryName standing) :
      ∀ segment ∈ parts.foldl (enter true) names, EntryName segment := by
    induction parts generalizing names with
    | nil => exact all
    | cons part parts ih =>
      exact ih (enter true names part) (fun other member => plain other (List.mem_cons_of_mem part member))
        (enter_rooted (plain part List.mem_cons_self) all)
  intro segment member
  exact kept (segments path) [] (segments_plain path) (by simp) segment (List.mem_reverse.mp member)

theorem segments_intercalate {names : List String} (filled : names ≠ []) (all : ∀ segment ∈ names, '/' ∉ segment.toList) :
    segments ("/".intercalate names) = names := by
  induction names with
  | nil => exact absurd rfl filled
  | cons name names ih =>
    have plain := all name List.mem_cons_self
    cases names with
    | nil => rw [String.intercalate_singleton,segments_name plain]
    | cons next names =>
      rw [String.intercalate_cons_cons,segments_append,segments_name plain,
        ih (by simp) (fun other member => all other (List.mem_cons_of_mem name member)),List.singleton_append]

-- The path that resolve gives leads where the paths lead.
theorem walk_text (names : List String) (all : ∀ segment ∈ names, EntryName segment) :
    walk true ("/" ++ "/".intercalate names) = names := by
  have rooted : walk true ("" ++ "/" ++ "/".intercalate names) = names := by
    by_cases filled : names = []
    · rw [filled]
      rfl
    · have spelled := segments_intercalate filled (fun segment member => (all segment member).plain)
      exact walk_below all spelled true ""
  exact rooted

theorem walk_resolve (cwd : String) (paths : List String) : walk true (resolve cwd paths) =
    walk true (paths.foldl (fun path next => if isAbsolute next then next else path ++ "/" ++ next) cwd) :=
  walk_text _ (walk_names _)

theorem segments_nonempty (path : String) : segments path ≠ [] := cutAt_nonempty '/' path

-- A path from the root as its segments spell it.
def Normal (path : String) : Prop := path = "/" ++ "/".intercalate (walk true path)

instance {path : String} : Decidable (Normal path) := inferInstanceAs (Decidable (_ = _))

theorem intercalate_segments (path : String) : "/".intercalate (segments path) = path := intercalate_cutAt rfl path

theorem normal_text (names : List String) (all : ∀ segment ∈ names, EntryName segment) : Normal ("/" ++ "/".intercalate names) := by
  unfold Normal
  rw [walk_text names all]

theorem normal_absolute (normal : Normal path) : isAbsolute path = true := by
  unfold Normal at normal
  rw [normal]
  exact startsWith_self "/" _

-- What normalize leaves of a path from the root: a slash at its end may stay.
theorem normalize_rooted (absolute : isAbsolute path = true) : ∃ ending, (ending = "" ∨ ending = "/") ∧
    normalize path = "/" ++ "/".intercalate (walk true path) ++ ending := by
  unfold normalize
  simp only [absolute,not_true_eq_false,and_false,if_false,if_true]
  split
  · exact ⟨"/",.inr rfl,(String.append_assoc).symm⟩
  · exact ⟨"",.inl rfl,(String.append_empty).symm⟩

theorem segments_names (filled : names ≠ []) (all : ∀ segment ∈ names, EntryName segment) :
    segments ("/" ++ "/".intercalate names) = "" :: names := by
  have start : segments ("" ++ "/" ++ "/".intercalate names) = "" :: names := by
    rw [segments_append,segments_name (by simp),segments_intercalate filled (fun segment member => (all segment member).plain),
      List.singleton_append]
  rw [String.empty_append] at start
  exact start

theorem normal_segments (normal : Normal path) (filled : walk true path ≠ []) : segments path = "" :: walk true path := by
  have spelled := segments_names filled (walk_names path)
  unfold Normal at normal
  rw [← normal] at spelled
  exact spelled

-- The segments of such a text: none is beside the names but an empty one at the end.
theorem segments_rooted (filled : names ≠ []) (all : ∀ segment ∈ names, EntryName segment) (closing : ending = "" ∨ ending = "/") :
    ∃ more : List String, (more = [] ∨ more = [""]) ∧ segments ("/" ++ "/".intercalate names ++ ending) = "" :: names ++ more := by
  have start := segments_names filled all
  rcases closing with rfl | rfl
  · exact ⟨[],.inl rfl,by rw [String.append_empty,start,List.append_nil]⟩
  · refine ⟨[""],.inr rfl,?_⟩
    have empty : segments "" = [""] := segments_name List.not_mem_nil
    have closed := segments_append ("/" ++ "/".intercalate names) ""
    rw [String.append_empty,start,empty] at closed
    exact closed

theorem splitOn_word {word : List Char} (plain : '/' ∉ word) (rest : List Char) :
    (word ++ rest).splitOn '/' = (rest.splitOn '/').modifyHead (word ++ ·) := by
  induction word with
  | nil => exact (congrFun List.modifyHead_id _).symm
  | cons c word ih =>
    have letter : ¬ (c == '/') = true := fun slash => plain ((beq_iff_eq.mp slash) ▸ List.mem_cons_self)
    have later : '/' ∉ word := fun member => plain (List.mem_cons_of_mem c member)
    rw [List.cons_append,List.splitOn_cons_eq_if_modifyHead,if_neg letter,ih later,List.modifyHead_modifyHead]
    rfl

-- The first segment of a text begins with the word that the text begins with.
theorem segments_word {word : String} (plain : '/' ∉ word.toList) (rest : String) :
    ∃ next beyond, segments (word ++ rest) = next :: beyond ∧ startsWith next word = true := by
  unfold segments
  rw [String.toList_append,splitOn_word plain]
  obtain ⟨first,later,parts⟩ := List.exists_cons_of_ne_nil (List.splitOn_ne_nil '/' rest.toList)
  rw [parts]
  refine ⟨_,_,rfl,?_⟩
  rw [startsWith_iff,String.toList_ofList]
  exact List.prefix_append _ _

-- A path that starts a normal one and ends in a name is normal too, and that name
-- starts the name that the normal path has in its place.
theorem normal_start (filled : names ≠ []) (all : ∀ segment ∈ names, EntryName segment) (closing : ending = "" ∨ ending = "/")
    {last : String} (name : EntryName last)
    (start : startsWith ("/" ++ "/".intercalate names ++ ending) (path ++ "/" ++ last) = true) :
    ∃ before first rest, names = before ++ first :: rest ∧ startsWith first last = true ∧
      path ++ "/" ++ last = "/" ++ "/".intercalate (before ++ [last]) := by
  obtain ⟨more,closed,spelled⟩ := segments_rooted filled all closing
  obtain ⟨rest,whole⟩ := startsWith_iff.mp start
  have text : "/" ++ "/".intercalate names ++ ending = path ++ "/" ++ (last ++ String.ofList rest) := by
    apply String.toList_injective
    rw [← whole]
    simp [String.toList_append]
  obtain ⟨next,beyond,below,starts⟩ := segments_word name.plain (String.ofList rest)
  obtain ⟨first,before,above⟩ := List.exists_cons_of_ne_nil (segments_nonempty path)
  rw [text,segments_append,above,below] at spelled
  obtain ⟨rfl,inner⟩ := List.cons.inj spelled
  have joined : before ++ next :: beyond = names ++ more := inner
  have present : next ≠ "" := by
    intro empty
    rw [empty,startsWith_iff] at starts
    exact name.filled (String.toList_injective (List.prefix_nil.mp starts))
  have same : path ++ "/" ++ last = "/" ++ "/".intercalate (before ++ [last]) := by
    have whole := intercalate_segments (path ++ "/" ++ last)
    rw [segments_append,above,segments_name name.plain,List.cons_append,String.intercalate_cons_of_ne_nil (by simp),
      String.empty_append] at whole
    exact whole.symm
  rcases List.append_eq_append_iff.mp joined with shorter | longer
  · obtain ⟨inside,split,tail⟩ := shorter
    cases inside with
    | nil =>
      rcases closed with rfl | rfl
      · cases tail
      · exact absurd (List.cons.inj tail).1 present
    | cons first inside =>
      obtain ⟨rfl,_⟩ := List.cons.inj tail
      exact ⟨before,next,inside,split,starts,same⟩
  · obtain ⟨outside,_,tail⟩ := longer
    rcases closed with rfl | rfl
    · exact absurd tail.symm (by simp)
    · cases outside with
      | nil => exact absurd (List.cons.inj tail).1.symm present
      | cons first outside => exact absurd (List.cons.inj tail).2.symm (by simp)

theorem intercalate_first (first : String) (rest : List String) : startsWith ("/".intercalate (first :: rest)) first = true := by
  cases rest with
  | nil =>
    rw [String.intercalate_singleton,startsWith_iff]
  | cons next rest =>
    rw [String.intercalate_cons_cons,String.append_assoc]
    exact startsWith_self _ _

theorem intercalate_start (before : List String) {first last : String} (starts : startsWith first last = true) (rest : List String) :
    startsWith ("/".intercalate (before ++ first :: rest)) ("/".intercalate (before ++ [last])) = true := by
  have whole := startsWith_trans (intercalate_first first rest) starts
  by_cases empty : before = []
  · rw [empty,List.nil_append,List.nil_append,String.intercalate_singleton]
    exact whole
  · rw [String.intercalate_append_of_ne_nil empty (by simp),String.intercalate_append_of_ne_nil empty (by simp),
      startsWith_append,String.intercalate_singleton]
    exact whole

-- A text that starts with a path goes along it, segment by segment, up to a name
-- that starts with the path's last one.
theorem startsWith_segments {last : String} (plain : '/' ∉ last.toList) (front text : String) :
    startsWith text (front ++ "/" ++ last) = true ↔
      ∃ name rest, segments text = segments front ++ name :: rest ∧ startsWith name last = true := by
  constructor
  · intro start
    obtain ⟨rest,whole⟩ := startsWith_iff.mp start
    have spelled : text = front ++ "/" ++ (last ++ String.ofList rest) := by
      apply String.toList_injective
      rw [← whole]
      simp [String.toList_append]
    obtain ⟨name,beyond,below,starts⟩ := segments_word plain (String.ofList rest)
    exact ⟨name,beyond,by rw [spelled,segments_append,below],starts⟩
  · intro given
    obtain ⟨name,rest,spelled,starts⟩ := given
    have whole := intercalate_segments text
    rw [spelled,String.intercalate_append_of_ne_nil (segments_nonempty front) (by simp),intercalate_segments] at whole
    rw [← whole,startsWith_append]
    exact startsWith_trans (intercalate_first name rest) starts

-- When the normal text of a location starts with a path that ends in a name.
theorem normal_start_iff (filled : names ≠ []) (all : ∀ segment ∈ names, EntryName segment) (closing : ending = "" ∨ ending = "/")
    {last : String} (name : EntryName last) (path : String) :
    startsWith ("/" ++ "/".intercalate names ++ ending) (path ++ "/" ++ last) = true ↔
      Normal (path ++ "/" ++ last) ∧
        ∃ first rest, names = (walk true (path ++ "/" ++ last)).dropLast ++ first :: rest ∧ startsWith first last = true := by
  have walked : walk true (path ++ "/" ++ last) = walk true path ++ [last] :=
    walk_below (fun segment member => (List.mem_singleton.mp member) ▸ name) (segments_name name.plain) true path
  rw [walked,List.dropLast_concat]
  constructor
  · intro start
    obtain ⟨before,first,rest,split,starts,same⟩ := normal_start filled all closing name start
    have named : ∀ segment ∈ before ++ [last], EntryName segment := by
      intro segment member
      rcases List.mem_append.mp member with inside | final
      · exact all segment (split ▸ List.mem_append_left _ inside)
      · exact (List.mem_singleton.mp final) ▸ name
    have way : before ++ [last] = walk true path ++ [last] := by
      rw [← walked,same,walk_text _ named]
    refine ⟨same ▸ normal_text _ named,first,rest,?_,starts⟩
    rw [← (List.append_left_inj _).mp way]
    exact split
  · intro given
    obtain ⟨normal,first,rest,split,starts⟩ := given
    unfold Normal at normal
    rw [normal,walked,split,String.append_assoc,startsWith_append]
    exact startsWith_longer (intercalate_start _ starts rest) ending

end Path

-- `path.replace('~',homedir())` of a path that starts with the tilde.
def replaceTilde (home rest : String) : String :=
  String.ofList (replacement ['~'] [] rest.toList home.toList) ++ rest

def resolveAbsolutePath (host : Host) (path : String) : String :=
  if Path.isAbsolute path then path
  else if startsWith path "~" then replaceTilde host.homedir (String.ofList (path.toList.drop 1))
  else Path.join [host.cwd,path]

theorem replaceTilde_plain {home : String} (plain : Patternless home.toList) (rest : String) : replaceTilde home rest = home ++ rest := by
  unfold replaceTilde
  rw [replacement_plain plain,String.ofList_toList]

def refusedOutputPath (outputPath : String) : String :=
  s!"Output path '{outputPath}' is not allowed. Please restart the migrator with a different output path."

-- The error that verifyOutputPath throws, if it throws one.
def verifyOutputPath (host : Host) (outputPath : String) : Option String :=
  let absLiskCorePath := resolveAbsolutePath host defaultLiskCorePath
  let absOutputPath := resolveAbsolutePath host outputPath
  if startsWith absOutputPath absLiskCorePath then some (refusedOutputPath outputPath) else none

end LiskMigrator
