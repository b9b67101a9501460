import LiskMigrator.OutputPath

namespace LiskMigrator
open FileTree Words

namespace Path

-- The names that lead from a place to another one, behind as many steps up.
def Relative (names : List String) : Prop := ∀ name ∈ names, name = ".." ∨ EntryName name

theorem enter_relative {segment : String} (relative : Relative standing) (plain : '/' ∉ segment.toList) : Relative (enter false standing segment) := by
  unfold enter
  split
  · exact relative
  · rename_i filled
    split
    · cases standing with
      | nil => exact fun name member => .inl (List.mem_singleton.mp member)
      | cons last before =>
        dsimp only
        split
        · intro name member
          rcases List.mem_cons.mp member with rfl | later
          · exact .inl rfl
          · exact relative name later
        · exact fun name member => relative name (List.mem_cons_of_mem last member)
    · rename_i notUp
      intro name member
      rcases List.mem_cons.mp member with rfl | later
      · exact .inr ⟨fun empty => filled (.inl empty),fun here => filled (.inr here),notUp,plain⟩
      · exact relative name later

theorem enter_up (rooted : Bool) (before : List String) (name : last ≠ "..") : enter rooted (last :: before) ".." = before := by
  simp [enter,name]

-- To enter a segment behind the names is to enter it at the place they lead to.
theorem enter_behind (relative : Relative standing) (segment : String) (start : List String) :
    (enter false standing segment).reverse.foldl (enter true) start = enter true (standing.reverse.foldl (enter true) start) segment := by
  by_cases here : segment = "" ∨ segment = "."
  · simp only [enter,if_pos here]
  · by_cases up : segment = ".."
    · cases standing with
      | nil => simp [enter,up]
      | cons last before =>
        by_cases high : last = ".."
        · simp [enter,up,high]
        · have name : EntryName last := (relative last List.mem_cons_self).resolve_left high
          rw [up,enter_up _ _ high,List.reverse_cons,List.foldl_append,List.foldl_cons,List.foldl_nil,enter_name name,enter_up _ _ high]
    · simp [enter,here,up]

theorem walk_behind (parts : List String) (plain : ∀ part ∈ parts, '/' ∉ part.toList) (start standing : List String)
    (relative : Relative standing) :
    Relative (parts.foldl (enter false) standing) ∧
      (parts.foldl (enter false) standing).reverse.foldl (enter true) start =
        parts.foldl (enter true) (standing.reverse.foldl (enter true) start) := by
  induction parts generalizing standing with
  | nil => exact ⟨relative,rfl⟩
  | cons part parts ih =>
    have onward := ih (fun other member => plain other (List.mem_cons_of_mem part member)) (enter false standing part)
      (enter_relative relative (plain part List.mem_cons_self))
    rw [enter_behind relative] at onward
    exact onward

theorem relative_plain (relative : Relative names) : ∀ name ∈ names, '/' ∉ name.toList := by
  intro name member
  rcases relative name member with rfl | isName
  · decide
  · exact isName.plain

theorem walk_relative (path : String) : Relative (walk false path) := by
  have relative := (walk_behind (segments path) (segments_plain path) [] [] (fun _ never => absurd never List.not_mem_nil)).1
  exact fun name member => relative name (List.mem_reverse.mp member)

-- What normalize leaves of a path from elsewhere: a dot where no name is left.
theorem normalize_relative (away : isAbsolute path = false) : ∃ ending, (ending = "" ∨ ending = "/") ∧
    normalize path = (if "/".intercalate (walk false path) = "" then "." else "/".intercalate (walk false path)) ++ ending := by
  unfold normalize
  simp only [away,Bool.false_eq_true,not_false_eq_true,and_true,if_false]
  generalize (if "/".intercalate (walk false path) = "" then "." else "/".intercalate (walk false path)) = body
  split
  · exact ⟨"/",.inr rfl,rfl⟩
  · exact ⟨"",.inl rfl,String.append_empty.symm⟩

theorem intercalate_empty (relative : Relative names) (empty : "/".intercalate names = "") : names = [] := by
  cases names with
  | nil => rfl
  | cons name rest =>
    have start := intercalate_first name rest
    rw [empty,startsWith_iff] at start
    have bare : name = "" := String.toList_injective (List.prefix_nil.mp start)
    rcases relative name List.mem_cons_self with up | isName
    · exact absurd (bare.symm.trans up) (by decide)
    · exact absurd bare isName.filled

-- A path leads where its normal form leads, from any directory.
theorem walk_normalize (away : isAbsolute path = false) (directory : String) :
    walk true (directory ++ "/" ++ normalize path) = walk true (directory ++ "/" ++ path) := by
  have behind : (walk false path).foldl (enter true) (walk true directory).reverse =
      (segments path).foldl (enter true) (walk true directory).reverse :=
    (walk_behind (segments path) (segments_plain path) (walk true directory).reverse [] (fun _ never => absurd never List.not_mem_nil)).2
  obtain ⟨ending,closing,normal⟩ := normalize_relative away
  have ended (body : String) : walk true (directory ++ "/" ++ (body ++ ending)) = walk true (directory ++ "/" ++ body) := by
    rcases closing with rfl | rfl
    · rw [String.append_empty]
    · rw [← String.append_assoc,walk_slash]
  rw [normal,ended,walk_append,walk_append,← behind]
  split
  · rename_i empty
    rw [intercalate_empty (walk_relative path) empty]
    rfl
  · rename_i filled
    have names : walk false path ≠ [] := fun none => filled (by rw [none]; rfl)
    rw [segments_intercalate names (relative_plain (walk_relative path))]

theorem away_word {word : String} (starts : startsWith text word = true) (filled : word ≠ "") (plain : '/' ∉ word.toList) :
    isAbsolute text = false := by
  rw [Bool.eq_false_iff]
  intro absolute
  obtain ⟨rest,split⟩ := startsWith_iff.mp starts
  obtain ⟨more,rooted⟩ := startsWith_iff.mp absolute
  cases letters : word.toList with
  | nil => exact filled (String.toList_injective letters)
  | cons first others =>
    rw [← split,letters] at rooted
    exact plain (letters ▸ (List.cons.inj rooted).1 ▸ List.mem_cons_self)

theorem normalize_away (away : isAbsolute path = false) : isAbsolute (normalize path) = false := by
  obtain ⟨ending,_,normal⟩ := normalize_relative away
  rw [normal]
  split
  · exact away_word (startsWith_self "." ending) (by decide) (by decide)
  · rename_i filled
    cases names : walk false path with
    | nil => exact absurd (by rw [names]; rfl) filled
    | cons name rest =>
      have relative : Relative (name :: rest) := names ▸ walk_relative path
      have present : name ≠ "" := by
        rcases relative name List.mem_cons_self with up | isName
        · exact up ▸ (by decide)
        · exact isName.filled
      exact away_word (startsWith_longer (intercalate_first name rest) ending) present (relative_plain relative name List.mem_cons_self)

theorem normalize_absolute (absolute : isAbsolute path = true) :
    isAbsolute (normalize path) = true ∧ walk true (normalize path) = walk true path := by
  obtain ⟨ending,closing,normal⟩ := normalize_rooted absolute
  rw [normal]
  refine ⟨startsWith_longer (startsWith_self "/" _) ending,?_⟩
  rcases closing with rfl | rfl
  · rw [String.append_empty,walk_text _ (walk_names path)]
  · rw [walk_slash,walk_text _ (walk_names path)]

end Path

section Locations
variable {host : Host}

theorem locate_normalize (path : String) : locate host (Path.normalize path) = locate host path := by
  unfold locate
  cases rooted : Path.isAbsolute path with
  | true =>
    obtain ⟨absolute,walked⟩ := Path.normalize_absolute rooted
    rw [absolute,if_pos rfl,if_pos rfl,walked]
  | false =>
    rw [Path.normalize_away rooted,if_neg Bool.false_ne_true,if_neg Bool.false_ne_true,Path.walk_normalize rooted]

theorem entry_away {name : String} (entry : Path.EntryName name) : Path.isAbsolute name = false := by
  rw [← String.append_empty (s := name)]
  exact Path.away_word (startsWith_self name "") entry.filled entry.plain

theorem entry_alone {name : String} (entry : Path.EntryName name) : ∀ segment ∈ [name], Path.EntryName segment :=
  fun _ member => (List.mem_singleton.mp member) ▸ entry

theorem isAbsolute_entry {name : String} (filled : dir ≠ "") : Path.isAbsolute (dir ++ "/" ++ name) = Path.isAbsolute dir := by
  unfold Path.isAbsolute Words.startsWith
  rw [String.toList_append,String.toList_append]
  cases letters : dir.toList with
  | nil => exact absurd (String.toList_injective letters) filled
  | cons c chars => rfl

-- An entry of a directory, by each of the ways in which the program spells it.
theorem locate_entry {name : String} (entry : Path.EntryName name) (filled : dir ≠ "") :
    locate host (dir ++ "/" ++ name) = locate host dir ++ [name] := by
  have spelled := Path.segments_name entry.plain
  unfold locate
  rw [isAbsolute_entry filled]
  split
  · exact Path.walk_below (entry_alone entry) spelled true dir
  · rw [← String.append_assoc,← String.append_assoc]
    exact Path.walk_below (entry_alone entry) spelled true (host.cwd ++ "/" ++ dir)

theorem locate_join {name : String} (entry : Path.EntryName name) (dir : String) :
    locate host (Path.join [dir,name]) = locate host dir ++ [name] := by
  by_cases bare : dir = ""
  · have alone : [dir,name].filter (· ≠ "") = [name] := by simp [bare,entry.filled]
    unfold Path.join
    simp only [alone,String.intercalate_singleton]
    rw [if_neg entry.filled,locate_normalize,bare]
    unfold locate
    rw [entry_away entry,if_neg Bool.false_ne_true,if_neg (by decide),Path.walk_below (entry_alone entry) (Path.segments_name entry.plain),String.append_empty,
      Path.walk_slash]
  · have both : [dir,name].filter (· ≠ "") = [dir,name] := by simp [bare,entry.filled]
    have joined : "/".intercalate [dir,name] = dir ++ "/" ++ name := by
      rw [String.intercalate_cons_cons,String.intercalate_singleton]
    have filled : dir ++ "/" ++ name ≠ "" := by simp
    unfold Path.join
    simp only [both,joined]
    rw [if_neg filled,locate_normalize,locate_entry entry bare]

theorem resolve_absolute (paths : List String) : Path.isAbsolute (Path.resolve cwd paths) = true := startsWith_self "/" _

theorem locate_resolve {name : String} (entry : Path.EntryName name) (dir : String) :
    locate host (Path.resolve host.cwd [dir,name]) = locate host dir ++ [name] := by
  rw [locate_absolute (resolve_absolute _),Path.walk_resolve,List.foldl_cons,List.foldl_cons,List.foldl_nil,
    entry_away entry,if_neg Bool.false_ne_true]
  exact Path.walk_below (entry_alone entry) (Path.segments_name entry.plain) true _

-- The text of an entry ends in its name, so more of the name is more of the text.
theorem intercalate_more (names : List String) (name more : String) :
    "/".intercalate (names ++ [name]) ++ more = "/".intercalate (names ++ [name ++ more]) := by
  by_cases none : names = []
  · rw [none,List.nil_append,List.nil_append,String.intercalate_singleton,String.intercalate_singleton]
  · rw [String.intercalate_append_of_ne_nil none (by simp),String.intercalate_append_of_ne_nil none (by simp),
      String.intercalate_singleton,String.intercalate_singleton,String.append_assoc]

theorem resolve_more {name more : String} (entry : Path.EntryName name) (longer : Path.EntryName (name ++ more)) (cwd dir : String) :
    Path.resolve cwd [dir,name] ++ more = Path.resolve cwd [dir,name ++ more] := by
  unfold Path.resolve
  simp only [List.foldl_cons,List.foldl_nil,entry_away entry,entry_away longer,Bool.false_eq_true,if_false]
  rw [Path.walk_below (entry_alone entry) (Path.segments_name entry.plain),
    Path.walk_below (entry_alone longer) (Path.segments_name longer.plain),String.append_assoc,intercalate_more]

theorem resolve_name {name : String} (entry : Path.EntryName name) (cwd dir : String) :
    (Path.segments (Path.resolve cwd [dir,name])).getLastD "" = name := by
  have walked : Path.resolve cwd [dir,name] =
      "" ++ "/" ++ "/".intercalate (Path.walk true (if Path.isAbsolute dir then dir else cwd ++ "/" ++ dir) ++ [name]) := by
    unfold Path.resolve
    simp only [List.foldl_cons,List.foldl_nil,entry_away entry,Bool.false_eq_true,if_false]
    rw [Path.walk_below (entry_alone entry) (Path.segments_name entry.plain),String.empty_append]
  have names : ∀ segment ∈ Path.walk true (if Path.isAbsolute dir then dir else cwd ++ "/" ++ dir) ++ [name], '/' ∉ segment.toList := by
    intro segment member
    rcases List.mem_append.mp member with early | final
    · exact (Path.walk_names _ segment early).plain
    · exact (List.mem_singleton.mp final) ▸ entry.plain
  rw [walked,Path.segments_append,Path.segments_intercalate (by simp) names,← List.append_assoc]
  exact List.getLastD_concat

theorem endsWith_entry {name : String} (entry : Path.EntryName name) (start : String) : endsWith (start ++ name) "/" = false := by
  rw [Bool.eq_false_iff]
  intro ends
  have slash : ['/'] <:+ start.toList ++ name.toList := by
    rw [← String.toList_append]
    exact List.isSuffixOf_iff_suffix.mp ends
  rcases List.suffix_or_suffix_of_suffix slash (List.suffix_append start.toList name.toList) with inside | short
  · exact entry.plain (inside.subset List.mem_cons_self)
  · cases letters : name.toList with
    | nil => exact entry.filled (String.toList_injective letters)
    | cons first rest =>
      have same : first = '/' := List.mem_singleton.mp (short.subset (letters ▸ List.mem_cons_self))
      exact entry.plain (letters ▸ same ▸ List.mem_cons_self)

theorem normalize_entry {name : String} (entry : Path.EntryName name) (ends : endsWith path "/" = false)
    (walked : Path.walk (Path.isAbsolute path) path = names ++ [name]) :
    Path.normalize path = (if Path.isAbsolute path then "/" else "") ++ "/".intercalate (names ++ [name]) := by
  have filled : "/".intercalate (names ++ [name]) ≠ "" := by
    by_cases none : names = []
    · rw [none,List.nil_append,String.intercalate_singleton]
      exact entry.filled
    · rw [String.intercalate_append_of_ne_nil none (by simp),String.intercalate_singleton]
      simp [entry.filled]
  unfold Path.normalize
  simp only [walked,ends,filled,false_and,if_false,Bool.false_eq_true]
  split
  · rfl
  · exact String.empty_append.symm

theorem join_entry {name : String} (entry : Path.EntryName name) (dir : String) :
    Path.join [dir,name] = (if Path.isAbsolute dir then "/" else "") ++
      "/".intercalate ((if dir = "" then [] else Path.walk (Path.isAbsolute dir) dir) ++ [name]) := by
  by_cases bare : dir = ""
  · have alone : [dir,name].filter (· ≠ "") = [name] := by simp [bare,entry.filled]
    have walked : Path.walk (Path.isAbsolute name) name = [] ++ [name] := by
      unfold Path.walk
      rw [Path.segments_name entry.plain,List.foldl_cons,List.foldl_nil,Path.enter_name entry]
      rfl
    have ends : endsWith name "/" = false := by
      have whole := endsWith_entry entry ""
      rwa [String.empty_append] at whole
    unfold Path.join
    simp only [alone,String.intercalate_singleton]
    rw [if_neg entry.filled,normalize_entry entry ends walked,entry_away entry,bare]
    rfl
  · have both : [dir,name].filter (· ≠ "") = [dir,name] := by simp [bare,entry.filled]
    have joined : "/".intercalate [dir,name] = dir ++ "/" ++ name := by
      rw [String.intercalate_cons_cons,String.intercalate_singleton]
    have filled : dir ++ "/" ++ name ≠ "" := by simp
    have walked : Path.walk (Path.isAbsolute (dir ++ "/" ++ name)) (dir ++ "/" ++ name) = Path.walk (Path.isAbsolute dir) dir ++ [name] := by
      rw [isAbsolute_entry bare]
      exact Path.walk_below (entry_alone entry) (Path.segments_name entry.plain) _ dir
    unfold Path.join
    simp only [both,joined]
    rw [if_neg filled,normalize_entry entry (endsWith_entry entry (dir ++ "/")) walked,isAbsolute_entry bare,if_neg bare]

theorem join_more {name more : String} (entry : Path.EntryName name) (longer : Path.EntryName (name ++ more)) (dir : String) :
    Path.join [dir,name] ++ more = Path.join [dir,name ++ more] := by
  rw [join_entry entry,join_entry longer,String.append_assoc,intercalate_more]

end Locations

section Names

-- The name of the file behind a URL.
def urlName (url : String) : String := (Path.segments url).getLastD ""

theorem segments_named (url : String) : Path.segments url = (Path.segments url).dropLast ++ [urlName url] := by
  rcases List.eq_nil_or_concat' (Path.segments url) with none | ⟨before,last,split⟩
  · exact absurd none (Path.segments_nonempty url)
  · have named : urlName url = last := by
      unfold urlName
      rw [split]
      exact List.getLastD_concat
    rw [named,split,List.dropLast_concat]

theorem segments_longer {ending : String} (plain : '/' ∉ ending.toList) (url : String) :
    Path.segments (url ++ ending) = (Path.segments url).dropLast ++ [urlName url ++ ending] := by
  have each : ∀ segment ∈ (Path.segments url).dropLast ++ [urlName url], '/' ∉ segment.toList :=
    segments_named url ▸ Path.segments_plain url
  have longer : ∀ segment ∈ (Path.segments url).dropLast ++ [urlName url ++ ending], '/' ∉ segment.toList := by
    intro segment member
    rcases List.mem_append.mp member with early | final
    · exact each segment (List.mem_append_left _ early)
    · rw [List.mem_singleton.mp final,String.toList_append]
      intro slash
      rcases List.mem_append.mp slash with first | second
      · exact each (urlName url) (List.mem_append_right _ List.mem_cons_self) first
      · exact plain second
  have whole : url ++ ending = "/".intercalate ((Path.segments url).dropLast ++ [urlName url ++ ending]) := by
    rw [← intercalate_more,← segments_named,Path.intercalate_segments]
  conv => lhs; rw [whole]
  exact Path.segments_intercalate (by simp) longer

theorem urlName_longer {ending : String} (plain : '/' ∉ ending.toList) (url : String) : urlName (url ++ ending) = urlName url ++ ending := by
  conv => lhs; unfold urlName; rw [segments_longer plain]
  exact List.getLastD_concat

-- The name ends as the URL does.
theorem urlName_ends {ending : String} (plain : '/' ∉ ending.toList) (ends : endsWith url ending = true) :
    endsWith (urlName url) ending = true := by
  have inside : ending.toList <:+ url.toList := List.isSuffixOf_iff_suffix.mp ends
  have whole : url = "/".intercalate ((Path.segments url).dropLast ++ [urlName url]) := by
    rw [← segments_named,Path.intercalate_segments]
  apply List.isSuffixOf_iff_suffix.mpr
  by_cases single : (Path.segments url).dropLast = []
  · rw [single,List.nil_append,String.intercalate_singleton] at whole
    rwa [← whole]
  · rw [String.intercalate_append_of_ne_nil single (by simp),String.intercalate_singleton,String.append_assoc] at whole
    have slash : "/".toList = ['/'] := rfl
    have below : '/' :: (urlName url).toList <:+ url.toList := by
      conv => rhs; rw [whole,String.toList_append,String.toList_append,slash]
      exact List.suffix_append _ _
    rcases List.suffix_or_suffix_of_suffix inside below with short | long
    · rcases List.suffix_cons_iff.mp short with same | within
      · exact absurd (same ▸ List.mem_cons_self) plain
      · exact within
    · exact absurd (long.subset List.mem_cons_self) plain

theorem urlName_entry {ending : String} (plain : '/' ∉ ending.toList) (long : 2 < ending.toList.length) (ends : endsWith url ending = true) :
    Path.EntryName (urlName url) := by
  have inside : ending.toList <:+ (urlName url).toList := List.isSuffixOf_iff_suffix.mp (urlName_ends plain ends)
  have enough := inside.length_le
  refine ⟨?_,?_,?_,?_⟩
  · rintro same
    rw [same] at enough
    exact absurd (lt_of_lt_of_le long enough) (by decide)
  · rintro same
    rw [same] at enough
    exact absurd (lt_of_lt_of_le long enough) (by decide)
  · rintro same
    rw [same] at enough
    exact absurd (lt_of_lt_of_le long enough) (by decide)
  · exact Path.segments_plain url (urlName url) (segments_named url ▸ List.mem_append_right _ List.mem_cons_self)

end Names
end LiskMigrator
