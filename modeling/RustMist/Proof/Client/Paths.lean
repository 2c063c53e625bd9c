import RustMist.Library.Substitution
import RustMist.Library.UrlSegments
import RustMist.Proof.Calls.Targets
import RustMist.Proof.Client.Queries

/-! The path of the URL that is built for a request and the template of its operation. -/

namespace RustMist

section Templates

/-- The segments of a template stand after its first separator. -/
def templateSegments (path : String) : List String := (splitText '/' path).drop 1

/-- A segment of a template is a name in braces or a text without braces. -/
structure TemplateSegment (segment : String) : Prop where
  slash : '/' ∉ segment.toList
  literal : placeholderName segment = none → '{' ∉ segment.toList ∧ '}' ∉ segment.toList
  named : ∀ name, placeholderName segment = some name →
    '{' ∉ name.toList ∧ '}' ∉ name.toList ∧ '/' ∉ name.toList

theorem toList_placeholder (name : String) :
    (placeholder name).toList = '{' :: (name.toList ++ ['}']) := by
  rw [placeholder, String.toList_append, String.toList_append]
  rfl

theorem placeholder_ne_nil (name : String) : (placeholder name).toList ≠ [] := by
  rw [toList_placeholder]
  exact List.cons_ne_nil _ _

theorem placeholderName_placeholder (name : String) :
    placeholderName (placeholder name) = some name := by
  rw [placeholderName, toList_placeholder]
  simp

/-- The name of a segment stands in its braces. -/
theorem placeholder_of_placeholderName {segment name : String}
    (named : placeholderName segment = some name) : placeholder name = segment := by
  unfold placeholderName at named
  split at named
  · rename_i rest letters
    split at named
    · rename_i closed
      obtain rfl := Option.some.inj named
      apply String.toList_injective
      rw [toList_placeholder, String.toList_ofList, letters,
        List.dropLast_append_getLast? '}' closed]
    · cases named
  · cases named

theorem placeholderName_eq_some_iff {segment name : String} :
    placeholderName segment = some name ↔ segment = placeholder name := by
  constructor
  · exact fun named => (placeholder_of_placeholderName named).symm
  · rintro rfl
    exact placeholderName_placeholder name

theorem placeholder_injective {first second : String}
    (same : placeholder first = placeholder second) : first = second := by
  have names := congrArg placeholderName same
  rw [placeholderName_placeholder, placeholderName_placeholder] at names
  exact Option.some.inj names

theorem templateSegment_of_safe {segment : String} (safe : safeSegment segment = true)
    (slash : '/' ∉ segment.toList) : TemplateSegment segment := by
  unfold safeSegment at safe
  split at safe
  · cases safe
  · refine ⟨slash, ?_, ?_⟩
    · intro literal
      rw [literal] at safe
      simpa using safe
    · intro name named
      rw [named] at safe
      dsimp only at safe
      rw [Bool.and_eq_true, List.all_eq_true] at safe
      have letters := safe.2
      refine ⟨fun member => ?_, fun member => ?_, fun member => ?_⟩ <;>
        exact absurd (letters _ member) (by decide)

theorem not_mem_of_splitOn {separator : Char} {letters piece : List Char}
    (member : piece ∈ letters.splitOn separator) : separator ∉ piece := by
  induction letters generalizing piece with
  | nil =>
      obtain rfl := List.mem_singleton.mp member
      exact List.not_mem_nil
  | cons letter rest ih =>
      rw [List.splitOn_cons_eq_if_modifyHead] at member
      split at member
      · rcases List.mem_cons.mp member with rfl | later
        · exact List.not_mem_nil
        · exact ih later
      · rename_i other
        obtain ⟨first, more, pieces⟩ :=
          List.exists_cons_of_ne_nil (List.splitOn_ne_nil separator rest)
        rw [pieces, List.modifyHead_cons] at member
        rcases List.mem_cons.mp member with rfl | later
        · intro inside
          rcases List.mem_cons.mp inside with rfl | deeper
          · exact other (beq_self_eq_true separator)
          · exact ih (by rw [pieces]; exact List.mem_cons_self) deeper
        · exact ih (by rw [pieces]; exact List.mem_cons_of_mem _ later)

theorem slash_not_mem_of_split {segment text : String} (member : segment ∈ splitText '/' text) :
    '/' ∉ segment.toList := by
  obtain ⟨letters, inside, rfl⟩ := List.mem_map.mp member
  rw [String.toList_ofList]
  exact not_mem_of_splitOn inside

/-- The template of a path that passed its check. -/
structure SafeTemplate (path : String) : Prop where
  whole : path.toList = '/' :: ['/'].intercalate ((templateSegments path).map String.toList)
  some' : templateSegments path ≠ []
  segments : ∀ segment ∈ templateSegments path, TemplateSegment segment

theorem append_of_stripPrefix {start text rest : String}
    (stripped : stripPrefix start text = some rest) : text = start ++ rest := by
  unfold stripPrefix at stripped
  split at stripped
  · rename_i found
    obtain ⟨tail, whole⟩ := List.isPrefixOf_iff_prefix.mp found
    obtain rfl := Option.some.inj stripped
    apply String.toList_injective
    have length : start.length = start.toList.length := rfl
    rw [String.toList_append, String.toList_ofList, length, ← whole, List.drop_left]
  · cases stripped

theorem templateSegments_api (rest : String) :
    templateSegments ("/api/v1/" ++ rest) = "api" :: "v1" :: splitText '/' rest := by
  have letters : ("/api/v1/" ++ rest).toList =
      [] ++ '/' :: (['a', 'p', 'i'] ++ '/' :: (['v', '1'] ++ '/' :: rest.toList)) := by
    rw [String.toList_append]
    rfl
  rw [templateSegments, splitText, letters, List.splitOn_append_cons_self_of_not_mem (by decide),
    List.splitOn_append_cons_self_of_not_mem (by decide),
    List.splitOn_append_cons_self_of_not_mem (by decide)]
  rfl

theorem safeTemplate_of_safePath {path : String} (safe : safePath path = true) :
    SafeTemplate path := by
  unfold safePath at safe
  split at safe
  · cases safe
  · rename_i rest stripped
    rw [Bool.and_eq_true, List.all_eq_true] at safe
    obtain rfl := append_of_stripPrefix stripped
    have parts := templateSegments_api rest
    have joined : ['/'].intercalate ((splitText '/' rest).map String.toList) = rest.toList := by
      have letters : (splitText '/' rest).map String.toList = rest.toList.splitOn '/' := by
        rw [splitText, List.map_map]
        simp [Function.comp_def]
      rw [letters, List.intercalate_splitOn]
    constructor
    · have more : (splitText '/' rest).map String.toList ≠ [] := by
        simp [splitText]
      rw [parts, List.map_cons, List.map_cons, List.intercalate_cons_cons,
        List.intercalate_cons_of_ne_nil more, joined, String.toList_append]
      rfl
    · rw [parts]
      exact List.cons_ne_nil _ _
    · rw [parts, List.forall_mem_cons, List.forall_mem_cons]
      exact ⟨templateSegment_of_safe (by decide) (by decide),
        templateSegment_of_safe (by decide) (by decide), fun segment member =>
          templateSegment_of_safe (safe.2 segment member) (slash_not_mem_of_split member)⟩

end Templates

section Filling

/-- A placeholder is filled with its value once the value is there. -/
def filledSegment (entries : List (String × String)) (segment : String) : String :=
  match placeholderName segment with
  | some name => (IndexMap.get name entries).getD segment
  | none => segment

/-- This is the template of a path with the given values in place. -/
def filledPath (path : String) (entries : List (String × String)) : String :=
  "/" ++ "/".intercalate ((templateSegments path).map (filledSegment entries))

theorem toList_filledPath (path : String) (entries : List (String × String)) :
    (filledPath path entries).toList =
      '/' :: ['/'].intercalate
        ((templateSegments path).map fun segment => (filledSegment entries segment).toList) := by
  rw [filledPath, String.toList_append, String.toList_intercalate, List.map_map]
  rfl

variable {path : String}

theorem filledPath_nil (template : SafeTemplate path) : filledPath path [] = path := by
  apply String.toList_injective
  rw [toList_filledPath, template.whole]
  congr 2
  apply List.map_congr_left
  intro segment _
  rw [filledSegment]
  cases placeholderName segment <;> rfl

theorem filledSegment_placeholder (entries : List (String × String)) (name : String) :
    filledSegment entries (placeholder name) =
      (IndexMap.get name entries).getD (placeholder name) := by
  rw [filledSegment, placeholderName_placeholder]

theorem filledSegment_literal {segment : String} (literal : placeholderName segment = none)
    (entries : List (String × String)) : filledSegment entries segment = segment := by
  rw [filledSegment, literal]

theorem get_concat {name : String} {before : List (String × String)}
    (fresh : name ∉ IndexMap.keys before) (value other : String) :
    IndexMap.get other (before ++ [(name, value)]) =
      if other = name then some value else IndexMap.get other before := by
  rw [← IndexMap.insert_of_not_mem fresh, IndexMap.get_insert]

/-- A placeholder stands in a segment only as the whole segment. -/
theorem occurs_segment_iff {segment name : String} (safe : TemplateSegment segment) :
    Pattern.occurs (placeholder name).toList segment.toList = true ↔
      segment = placeholder name := by
  rw [Pattern.occurs_iff_infix]
  constructor
  · intro inside
    cases named : placeholderName segment with
    | none =>
        have opened : '{' ∈ segment.toList :=
          inside.subset (by rw [toList_placeholder]; exact List.mem_cons_self)
        exact absurd opened (safe.literal named).1
    | some other =>
        obtain ⟨opening, closing, _⟩ := safe.named other named
        obtain rfl := placeholder_of_placeholderName named
        obtain ⟨start, tail, whole⟩ := inside
        rw [toList_placeholder, toList_placeholder] at whole
        have first : start = [] := by
          by_contra more
          obtain ⟨letter, start, rfl⟩ := List.exists_cons_of_ne_nil more
          rw [List.cons_append, List.cons_append, List.cons.injEq] at whole
          have opened : '{' ∈ other.toList ++ ['}'] := by
            rw [← whole.2]
            simp
          rcases List.mem_append.mp opened with absent | absent
          · exact opening absent
          · exact absurd absent (by decide)
        rw [first, List.nil_append, List.cons_append, List.cons.injEq, List.append_assoc] at whole
        rcases List.eq_nil_or_concat tail with rfl | ⟨more, last, rfl⟩
        · rw [List.append_nil, List.append_left_inj] at whole
          rw [String.toList_injective whole.2]
        · have letters : (name.toList ++ '}' :: more) ++ [last] = other.toList ++ ['}'] := by
            simpa using whole.2
          have inner := List.append_inj_left' letters rfl
          exact absurd (by rw [← inner]; simp) closing
  · rintro rfl
    exact List.infix_rfl

theorem slash_not_mem_placeholder {name : String} (template : SafeTemplate path)
    (listed : placeholder name ∈ templateSegments path) : '/' ∉ (placeholder name).toList :=
  (template.segments _ listed).slash

variable {before : List (String × String)} {name value : String}

/-- The next replacement fills the placeholder and leaves the values that are in place alone. -/
def Settles (path : String) (before : List (String × String)) (name value : String) : Prop :=
  value = placeholder name ∨ placeholder name ∈ templateSegments path ∧
    ∀ earlier ∈ before, placeholder earlier.1 ∈ templateSegments path →
      containsText (placeholder name) earlier.2 = false

theorem replace_segment {segment : String} (safe : TemplateSegment segment)
    (other : segment ≠ placeholder name) :
    Pattern.replace (placeholder name).toList value.toList segment.toList = segment.toList := by
  apply Pattern.replace_of_not_occurs
  rw [← Bool.not_eq_true, occurs_segment_iff safe]
  exact other

/-- One segment of the template under the next replacement. -/
theorem replace_filledSegment_iff {segment : String} (safe : TemplateSegment segment)
    (fresh : name ∉ IndexMap.keys before) :
    Pattern.replace (placeholder name).toList value.toList (filledSegment before segment).toList =
        (filledSegment (before ++ [(name, value)]) segment).toList ↔
      ∀ other held, segment = placeholder other → IndexMap.get other before = some held →
        value = placeholder name ∨ containsText (placeholder name) held = false := by
  cases named : placeholderName segment with
  | none =>
      have apart (other : String) : segment ≠ placeholder other := by
        rintro rfl
        rw [placeholderName_placeholder] at named
        cases named
      rw [filledSegment_literal named, filledSegment_literal named]
      exact iff_of_true (replace_segment safe (apart name)) fun other _ same =>
        absurd same (apart other)
  | some own =>
      obtain rfl := placeholderName_eq_some_iff.mp named
      rw [filledSegment_placeholder, filledSegment_placeholder, get_concat fresh]
      cases known : IndexMap.get own before with
      | none =>
          refine iff_of_true ?_ fun other held same present => ?_
          · by_cases same : own = name
            · rw [if_pos same, same]
              exact Pattern.replace_self (placeholder_ne_nil name)
            · rw [if_neg same]
              exact replace_segment safe fun equal => same (placeholder_injective equal)
          · rw [← placeholder_injective same, known] at present
            cases present
      | some held =>
          have other : own ≠ name := by
            rintro rfl
            exact fresh (IndexMap.mem_keys_of_get known)
          rw [if_neg other, Option.getD_some, Pattern.replace_eq_self_iff (placeholder_ne_nil name),
            String.toList_inj]
          constructor
          · intro settled other' held' same present
            rw [← placeholder_injective same, known] at present
            rw [← Option.some.inj present]
            exact settled.symm
          · intro settled
            exact (settled own held rfl known).symm

/-- A value for a name that the template lacks changes nothing. -/
theorem filledPath_unlisted (fresh : name ∉ IndexMap.keys before)
    (other : placeholder name ∉ templateSegments path) :
    filledPath path (before ++ [(name, value)]) = filledPath path before := by
  have same : (templateSegments path).map (filledSegment (before ++ [(name, value)])) =
      (templateSegments path).map (filledSegment before) := by
    apply List.map_congr_left
    intro segment member
    cases named : placeholderName segment with
    | none => rw [filledSegment_literal named, filledSegment_literal named]
    | some own =>
        obtain rfl := placeholderName_eq_some_iff.mp named
        have apart : own ≠ name := by
          rintro rfl
          exact other member
        rw [filledSegment_placeholder, filledSegment_placeholder, get_concat fresh, if_neg apart]
  rw [filledPath, same, filledPath]

/-- A placeholder that is filled with itself stays. -/
theorem filledPath_self (fresh : name ∉ IndexMap.keys before) :
    filledPath path (before ++ [(name, placeholder name)]) = filledPath path before := by
  have same : (templateSegments path).map (filledSegment (before ++ [(name, placeholder name)])) =
      (templateSegments path).map (filledSegment before) := by
    apply List.map_congr_left
    intro segment _
    cases named : placeholderName segment with
    | none => rw [filledSegment_literal named, filledSegment_literal named]
    | some own =>
        obtain rfl := placeholderName_eq_some_iff.mp named
        rw [filledSegment_placeholder, filledSegment_placeholder, get_concat fresh]
        split
        · rename_i same
          subst same
          rw [IndexMap.get_eq_none_iff.mpr fresh]
          rfl
        · rfl
  rw [filledPath, same, filledPath]

theorem replaceAll_eq_self_iff {text : String} :
    replaceAll (placeholder name) value text = text ↔
      containsText (placeholder name) text = false ∨ value = placeholder name := by
  have whole : replaceAll (placeholder name) value text = text ↔
      Pattern.replace (placeholder name).toList value.toList text.toList = text.toList := by
    rw [replaceAll, ← String.toList_inj, String.toList_ofList]
  rw [whole, Pattern.replace_eq_self_iff (placeholder_ne_nil name), containsText,
    String.toList_inj]

/-- The pieces of a filled template are rewritten one by one. -/
theorem toList_replaceAll_filledPath (template : SafeTemplate path)
    (listed : placeholder name ∈ templateSegments path) :
    (replaceAll (placeholder name) value (filledPath path before)).toList =
      '/' :: ['/'].intercalate ((templateSegments path).map fun segment =>
        Pattern.replace (placeholder name).toList value.toList
          (filledSegment before segment).toList) := by
  have slash := slash_not_mem_placeholder template listed
  rw [replaceAll, String.toList_ofList, toList_filledPath, Pattern.replace_kept
    (Pattern.not_prefix_separator (placeholder_ne_nil name) slash),
    Pattern.replace_intercalate (placeholder_ne_nil name) slash, List.map_map]
  rfl

theorem replaceAll_filledPath (template : SafeTemplate path) (fresh : name ∉ IndexMap.keys before)
    (settles : Settles path before name value) :
    replaceAll (placeholder name) value (filledPath path before) =
      filledPath path (before ++ [(name, value)]) := by
  rcases settles with rfl | ⟨listed, settled⟩
  · rw [filledPath_self fresh]
    exact replaceAll_eq_self_iff.mpr (.inr rfl)
  · apply String.toList_injective
    rw [toList_replaceAll_filledPath template listed, toList_filledPath]
    congr 2
    apply List.map_congr_left
    intro segment member
    rw [replace_filledSegment_iff (template.segments segment member) fresh]
    rintro other held rfl known
    exact .inr (settled (other, held) (IndexMap.mem_of_get known) member)

/-- The values of the placeholders that are in place hold no separator. -/
def SlashFree (path : String) (entries : List (String × String)) : Prop :=
  ∀ name value, placeholder name ∈ templateSegments path →
    IndexMap.get name entries = some value → '/' ∉ value.toList

theorem slash_not_mem_filledSegment {entries : List (String × String)}
    (template : SafeTemplate path) (free : SlashFree path entries) {segment : String}
    (member : segment ∈ templateSegments path) :
    '/' ∉ (filledSegment entries segment).toList := by
  have slash := (template.segments segment member).slash
  cases named : placeholderName segment with
  | none => rwa [filledSegment_literal named]
  | some own =>
      obtain rfl := placeholderName_eq_some_iff.mp named
      rw [filledSegment_placeholder]
      cases known : IndexMap.get own entries with
      | none => exact slash
      | some value => exact free own value member known

theorem settles_of_replaceAll (template : SafeTemplate path)
    (distinct : (IndexMap.keys before).Nodup) (fresh : name ∉ IndexMap.keys before)
    (free : SlashFree path (before ++ [(name, value)]))
    (occurs : containsText (placeholder name) (filledPath path before) = true)
    (same : replaceAll (placeholder name) value (filledPath path before) =
      filledPath path (before ++ [(name, value)])) : Settles path before name value := by
  by_cases listed : placeholder name ∈ templateSegments path
  · have earlier : SlashFree path before := by
      intro other held member known
      apply free other held member
      rw [get_concat fresh, if_neg]
      · exact known
      · rintro rfl
        exact fresh (IndexMap.mem_keys_of_get known)
    have own : '/' ∉ value.toList := free name value listed (by rw [get_concat fresh, if_pos rfl])
    rw [← String.toList_inj, toList_replaceAll_filledPath template listed, toList_filledPath,
      List.cons_inj_right] at same
    have pieces := Pattern.intercalate_injective (by simpa using template.some')
      (by simpa using template.some') (by
        intro piece inside slash
        obtain ⟨segment, member, rfl⟩ := List.mem_map.mp inside
        rcases Pattern.mem_replace (placeholder_ne_nil name) slash with new | kept
        · exact own new
        · exact slash_not_mem_filledSegment template earlier member kept) (by
        intro piece inside
        obtain ⟨segment, member, rfl⟩ := List.mem_map.mp inside
        exact slash_not_mem_filledSegment template free member) same
    rw [List.map_inj_left] at pieces
    by_cases whole : value = placeholder name
    · exact .inl whole
    · refine .inr ⟨listed, fun entry member present => ?_⟩
      have known := IndexMap.get_of_mem distinct member
      have settled := (replace_filledSegment_iff (template.segments _ present) fresh).mp
        (pieces _ present) entry.1 entry.2 rfl known
      exact settled.resolve_left whole
  · rw [filledPath_unlisted fresh listed] at same
    rcases replaceAll_eq_self_iff.mp same with absent | whole
    · rw [occurs] at absent
      cases absent
    · exact .inl whole

end Filling

section Expansion

theorem substituted_concat (path : String) (before : List (String × String))
    (entry : String × String) :
    substituted path (before ++ [entry]) =
      replaceAll (placeholder entry.1) entry.2 (substituted path before) := by
  rw [substituted, List.foldl_append]
  rfl

theorem expandPath_eq {operationId path expanded : String} {entries : List (String × String)}
    (expansion : expandPath operationId path entries = .ok expanded) :
    expanded = substituted path entries := by
  induction entries generalizing path with
  | nil => exact (Except.ok.inj expansion).symm
  | cons entry rest ih =>
      obtain ⟨name, value⟩ := entry
      rw [expandPath] at expansion
      split at expansion
      · exact ih expansion
      · cases expansion

variable {path : String} {entries : List (String × String)}

/-- After every replacement the text is the template with the values so far in place. -/
def FillsInPlace (path : String) (entries : List (String × String)) : Prop :=
  ∀ before after, entries = before ++ after → substituted path before = filledPath path before

def Settled (path : String) (entries : List (String × String)) : Prop :=
  ∀ before name value after, entries = before ++ (name, value) :: after →
    Settles path before name value

theorem fresh_of_nodup (distinct : (IndexMap.keys entries).Nodup)
    {before after : List (String × String)} {name value : String}
    (split : entries = before ++ (name, value) :: after) :
    (IndexMap.keys before).Nodup ∧ name ∉ IndexMap.keys before := by
  rw [split, IndexMap.keys, List.map_append, List.nodup_append] at distinct
  refine ⟨distinct.1, fun member => ?_⟩
  exact distinct.2.2 name member name List.mem_cons_self rfl

theorem fillsInPlace_of_settled (template : SafeTemplate path)
    (distinct : (IndexMap.keys entries).Nodup) (settled : Settled path entries) :
    FillsInPlace path entries := by
  intro before
  induction before using List.reverseRecOn with
  | nil => exact fun _ _ => (filledPath_nil template).symm
  | append_singleton before entry ih =>
      intro after split
      rw [List.append_assoc, List.singleton_append] at split
      obtain ⟨name, value⟩ := entry
      rw [substituted_concat, ih _ split]
      exact replaceAll_filledPath template (fresh_of_nodup distinct split).2
        (settled before name value after split)

/-- Under the builder's own check the values are filled in place exactly when they settle. -/
theorem settled_of_fillsInPlace (template : SafeTemplate path)
    (distinct : (IndexMap.keys entries).Nodup) (free : SlashFree path entries)
    (occur : PlaceholdersOccur path entries) (fills : FillsInPlace path entries) :
    Settled path entries := by
  intro before name value after split
  obtain ⟨distinct', fresh⟩ := fresh_of_nodup distinct split
  have here := fills before _ split
  have next := fills (before ++ [(name, value)]) after (by simpa using split)
  rw [substituted_concat, here] at next
  have occurs := occur before name value after split
  rw [here] at occurs
  refine settles_of_replaceAll template distinct' fresh ?_ occurs next
  intro other held listed known
  apply free other held listed
  apply IndexMap.get_of_mem distinct
  have member := IndexMap.mem_of_get known
  rw [split]
  simpa [or_assoc] using List.mem_append_left after member

end Expansion

section Urls

/-- A literal segment stands as it is; a placeholder is replaced by its encoded value. -/
def SegmentCarries (encode : Char → List Char) (path : PathValues) (template : String)
    (segment : List Char) : Prop :=
  match placeholderName template with
  | none => segment = template.toList
  | some name => ∃ value, path.get name = some value ∧ segment = value.toList.flatMap encode

def targetParameter : MistTargetKind → String
  | .org => "org_id"
  | .site => "site_id"

/-- The URL names the target that was derived from the path values. -/
def UrlNamesTarget (operation : MistOperation) (path : PathValues) (url : Url) : Prop :=
  ∀ target, targetFor operation.targetSelectors path = .ok (some target) →
    placeholder (targetParameter target.kind) ∈ templateSegments operation.path ∧
      List.Forall₂ (fun template segment =>
          template = placeholder (targetParameter target.kind) → segment = target.id.toList)
        (templateSegments operation.path) url.segments

/-- The path of a URL is the template with each placeholder replaced once by its value. -/
structure FaithfulUrl (encode : Char → List Char) (operation : MistOperation) (path : PathValues)
    (url : Url) : Prop where
  segments : List.Forall₂ (SegmentCarries encode path) (templateSegments operation.path)
    url.segments
  once : FillsInPlace operation.path path.entries
  target : UrlNamesTarget operation path url

/-- The literal segments and the values are ones that a URL keeps. -/
structure PlainPath (operation : MistOperation) (path : PathValues) : Prop where
  literals : ∀ segment ∈ templateSegments operation.path, placeholderName segment = none →
    (∀ character ∈ segment.toList, UrlPath.isPlain character = true) ∧
      UrlPath.isDotSegment segment.toList = false
  supplied : ∀ name, placeholder name ∈ templateSegments operation.path → name ∈ path.keys
  values : ∀ name value, placeholder name ∈ templateSegments operation.path →
    path.get name = some value → (∀ character ∈ value.toList, UrlPath.isKept character = true) ∧
      UrlPath.isDotSegment value.toList = false
  settled : Settled operation.path path.entries

/-- No value of a placeholder holds a percent sign. -/
def NoPercent (operation : MistOperation) (path : PathValues) : Prop :=
  ∀ name value, placeholder name ∈ templateSegments operation.path →
    path.get name = some value → '%' ∉ value.toList

variable {encode : Char → List Char} {operation : MistOperation} {path : PathValues} {url : Url}

/-- A segment of a template with the way in which it is to be written. -/
def templatePart (encode : Char → List Char) (path : PathValues) (segment : String) :
    UrlPath.Part :=
  match placeholderName segment with
  | none => (segment.toList, fun character => [character])
  | some name => (((path.get name).getD segment).toList, encode)

theorem templatePart_literal {segment : String} (literal : placeholderName segment = none) :
    templatePart encode path segment = (segment.toList, fun character => [character]) := by
  rw [templatePart, literal]

theorem templatePart_placeholder {name value : String} (known : path.get name = some value) :
    templatePart encode path (placeholder name) = (value.toList, encode) := by
  rw [templatePart, placeholderName_placeholder]
  dsimp only
  rw [known, Option.getD_some]

theorem templatePart_fst (segment : String) :
    (templatePart encode path segment).1 = (filledSegment path.entries segment).toList := by
  unfold templatePart filledSegment
  cases placeholderName segment <;> rfl

theorem encoder_templatePart (encoder : UrlPath.Encoder encode) (segment : String) :
    UrlPath.Encoder (templatePart encode path segment).2 := by
  unfold templatePart
  cases placeholderName segment with
  | none => exact UrlPath.encoder_literal
  | some name => exact encoder

theorem segmentCarries_iff {template : String} {segment : List Char} :
    SegmentCarries encode path template segment ↔
      (∀ name, template = placeholder name → name ∈ path.keys) ∧
        (templatePart encode path template).expected = segment := by
  cases named : placeholderName template with
  | none =>
      have literal : (templatePart encode path template).expected = template.toList := by
        rw [templatePart_literal named, UrlPath.Part.expected]
        simp
      rw [SegmentCarries, named, literal]
      constructor
      · rintro rfl
        refine ⟨?_, rfl⟩
        rintro name rfl
        rw [placeholderName_placeholder] at named
        cases named
      · exact fun carried => carried.2.symm
  | some name =>
      obtain rfl := placeholderName_eq_some_iff.mp named
      rw [SegmentCarries, named]
      dsimp only
      constructor
      · rintro ⟨value, known, rfl⟩
        refine ⟨?_, by rw [templatePart_placeholder known]; rfl⟩
        intro other same
        rw [← placeholder_injective same]
        exact IndexMap.mem_keys_of_get known
      · rintro ⟨supplied, rfl⟩
        have present : path.get name ≠ none :=
          fun absent => IndexMap.get_eq_none_iff.mp absent (supplied name rfl)
        obtain ⟨value, known⟩ := Option.ne_none_iff_exists'.mp present
        exact ⟨value, known, by rw [templatePart_placeholder known]; rfl⟩

/-- The segments of a filled template are right exactly when every part is read as it is to be
written. -/
theorem carries_iff (encoder : UrlPath.Encoder encode) (template : SafeTemplate operation.path)
    (filled : url.segments = UrlPath.setPath (filledPath operation.path path.entries).toList) :
    List.Forall₂ (SegmentCarries encode path) (templateSegments operation.path) url.segments ↔
      (∀ name, placeholder name ∈ templateSegments operation.path → name ∈ path.keys) ∧
        ∀ segment ∈ templateSegments operation.path,
          (templatePart encode path segment).Faithful := by
  have parts : (templateSegments operation.path).map (templatePart encode path) ≠ [] := by
    simpa using template.some'
  have encoders : ∀ part ∈ (templateSegments operation.path).map (templatePart encode path),
      UrlPath.Encoder part.2 := by
    intro part member
    obtain ⟨segment, _, rfl⟩ := List.mem_map.mp member
    exact encoder_templatePart encoder segment
  have letters : (filledPath operation.path path.entries).toList = '/' :: ['/'].intercalate
      (((templateSegments operation.path).map (templatePart encode path)).map Prod.fst) := by
    rw [toList_filledPath, List.map_map]
    simp only [Function.comp_def, templatePart_fst]
  have whole := UrlPath.setPath_parts_iff parts encoders
  rw [← letters, ← filled, List.map_map, List.forall_mem_map] at whole
  rw [← whole]
  have meaning : SegmentCarries encode path = fun template segment =>
      (∀ name, template = placeholder name → name ∈ path.keys) ∧
        (UrlPath.Part.expected ∘ templatePart encode path) template = segment := by
    funext template segment
    exact propext segmentCarries_iff
  rw [meaning, List.forall₂_and_left, ← List.forall₂_map_left_iff (R := Eq),
    List.forall₂_eq_eq_eq, eq_comm]
  apply and_congr_left
  intro _
  constructor
  · exact fun supplied name listed => supplied _ listed name rfl
  · rintro supplied template listed name rfl
    exact supplied name listed

/-- A part is faithful when its literal is plain or its value is kept. -/
theorem faithful_parts_iff (keeps : Char → Prop)
    (read : ∀ character, UrlPath.readChar character = encode character ↔ keeps character)
    (supplied : ∀ name, placeholder name ∈ templateSegments operation.path → name ∈ path.keys) :
    (∀ segment ∈ templateSegments operation.path, (templatePart encode path segment).Faithful) ↔
      (∀ segment ∈ templateSegments operation.path, placeholderName segment = none →
        (∀ character ∈ segment.toList, UrlPath.isPlain character = true) ∧
          UrlPath.isDotSegment segment.toList = false) ∧
      ∀ name value, placeholder name ∈ templateSegments operation.path →
        path.get name = some value → (∀ character ∈ value.toList, keeps character) ∧
          UrlPath.isDotSegment value.toList = false := by
  have part_iff (part : UrlPath.Part) : part.Faithful ↔
      (∀ character ∈ part.1, UrlPath.readChar character = part.2 character) ∧
        UrlPath.isDotSegment part.1 = false :=
    ⟨fun faithful => ⟨faithful.read, faithful.kept⟩, fun ⟨read, kept⟩ => ⟨read, kept⟩⟩
  constructor
  · intro faithful
    constructor
    · intro segment member literal
      have part := faithful segment member
      rw [templatePart_literal literal, part_iff] at part
      simpa only [UrlPath.read_literal_iff] using part
    · intro name value listed known
      have part := faithful _ listed
      rw [templatePart_placeholder known, part_iff] at part
      simpa only [read] using part
  · rintro ⟨literals, values⟩ segment member
    cases named : placeholderName segment with
    | none =>
        rw [templatePart_literal named, part_iff]
        simpa only [UrlPath.read_literal_iff] using literals segment member named
    | some name =>
        obtain rfl := placeholderName_eq_some_iff.mp named
        have present : path.get name ≠ none :=
          fun absent => IndexMap.get_eq_none_iff.mp absent (supplied name member)
        obtain ⟨value, known⟩ := Option.ne_none_iff_exists'.mp present
        rw [templatePart_placeholder known, part_iff]
        simpa only [read] using values name value member known

theorem containsText_template_iff {name : String} (template : SafeTemplate operation.path)
    (slash : '/' ∉ name.toList) :
    containsText (placeholder name) operation.path = true ↔
      placeholder name ∈ templateSegments operation.path := by
  have free : '/' ∉ (placeholder name).toList := by
    rw [toList_placeholder]
    simp [slash]
  have nonempty := placeholder_ne_nil name
  obtain ⟨first, rest, segments⟩ := List.exists_cons_of_ne_nil template.some'
  rw [containsText, template.whole, segments, List.map_cons, Pattern.occurs,
    Pattern.not_prefix_separator nonempty free, Bool.false_or,
    Pattern.occurs_intercalate nonempty free, ← List.map_cons, ← segments, List.any_map,
    List.any_eq_true]
  constructor
  · rintro ⟨segment, member, occurs⟩
    rw [← (occurs_segment_iff (template.segments segment member)).mp occurs]
    exact member
  · intro listed
    exact ⟨_, listed, (occurs_segment_iff (template.segments _ listed)).mpr rfl⟩

theorem org_mem_targetsForPath {path : String} (listed : .org ∈ targetsForPath path) :
    containsText "{org_id}" path = true := by
  by_contra absent
  unfold targetsForPath at listed
  cases site : containsText "{site_id}" path <;>
    cases msp : containsText "{msp_id}" path <;> simp_all

theorem site_mem_targetsForPath {path : String} (listed : .site ∈ targetsForPath path) :
    containsText "{site_id}" path = true := by
  by_contra absent
  unfold targetsForPath at listed
  cases org : containsText "{org_id}" path <;>
    cases msp : containsText "{msp_id}" path <;> simp_all

/-- A derived target stands in the template and among the path values. -/
theorem target_listed (template : SafeTemplate operation.path)
    (targets : operation.targetSelectors = targetsForPath operation.path) {target : MistTarget}
    (derived : targetFor operation.targetSelectors path = .ok (some target)) :
    placeholder (targetParameter target.kind) ∈ templateSegments operation.path ∧
      path.get (targetParameter target.kind) = some target.id := by
  have derivation := targetFor_derived derived
  generalize chosen : operation.targetSelectors = selectors at derivation
  rw [targets] at chosen
  cases derivation with
  | org _ kind supplied =>
      rw [kind]
      have occurs := org_mem_targetsForPath (chosen ▸ List.mem_singleton_self _)
      exact ⟨(containsText_template_iff template (by decide)).mp occurs, supplied⟩
  | site _ kind supplied =>
      rw [kind]
      have occurs := site_mem_targetsForPath (chosen ▸ List.mem_singleton_self _)
      exact ⟨(containsText_template_iff template (by decide)).mp occurs, supplied⟩

theorem isPlain_digits : ∀ code : Fin 128,
    Char.ofNat code = '-' ∨ Hex.isLowerDigit (Char.ofNat code) = true →
      UrlPath.isPlain (Char.ofNat code) = true ∧ Char.ofNat code ≠ '%' := by
  decide

/-- A letter of a canonical identifier stands for itself. -/
theorem isPlain_of_canonical {letter : Char}
    (canonical : letter = '-' ∨ Hex.isLowerDigit letter = true) :
    UrlPath.isPlain letter = true ∧ letter ≠ '%' := by
  have small : letter.toNat < 128 := by
    rcases canonical with rfl | digit
    · decide
    · exact Nat.lt_succ_of_le (UInt32.le_iff_toNat_le.mp (Hex.val_le_of_isLowerDigit digit))
  have all := isPlain_digits ⟨letter.toNat, small⟩
  rw [Char.ofNat_toNat] at all
  exact all canonical

theorem namesTarget_of_carries (same : ∀ character, UrlPath.isPlain character = true →
      character ≠ '%' → encode character = [character])
    (template : SafeTemplate operation.path)
    (targets : operation.targetSelectors = targetsForPath operation.path)
    (carries : List.Forall₂ (SegmentCarries encode path) (templateSegments operation.path)
      url.segments) : UrlNamesTarget operation path url := by
  intro target derived
  obtain ⟨listed, supplied⟩ := target_listed template targets derived
  refine ⟨listed, carries.imp ?_⟩
  rintro _ segment carried rfl
  rw [SegmentCarries, placeholderName_placeholder] at carried
  obtain ⟨value, known, rfl⟩ := carried
  obtain rfl := Option.some.inj (supplied.symm.trans known)
  have canonical := target.canonical
  rw [isCanonicalUuid, Bool.and_eq_true] at canonical
  have letters : target.id.toList.flatMap encode = target.id.toList.flatMap fun letter => [letter] := by
    apply List.flatMap_congr
    intro letter member
    obtain ⟨plain, other⟩ := isPlain_of_canonical (letter_of_scan canonical.2 letter member)
    exact same letter plain other
  rw [letters]
  simp

/-- The condition under which a URL is faithful to an encoder that reads the kept characters. -/
theorem faithfulUrl_iff (encoder : UrlPath.Encoder encode) (keeps : Char → Prop)
    (read : ∀ character, UrlPath.readChar character = encode character ↔ keeps character)
    (same : ∀ character, UrlPath.isPlain character = true → character ≠ '%' →
      encode character = [character])
    (slash : ¬keeps '/') (valid : ValidOperation operation)
    (occur : PlaceholdersOccur operation.path path.entries)
    (built : url.segments =
      UrlPath.setPath (substituted operation.path path.entries).toList) :
    FaithfulUrl encode operation path url ↔
      (∀ segment ∈ templateSegments operation.path, placeholderName segment = none →
        (∀ character ∈ segment.toList, UrlPath.isPlain character = true) ∧
          UrlPath.isDotSegment segment.toList = false) ∧
      (∀ name, placeholder name ∈ templateSegments operation.path → name ∈ path.keys) ∧
      (∀ name value, placeholder name ∈ templateSegments operation.path →
        path.get name = some value → (∀ character ∈ value.toList, keeps character) ∧
          UrlPath.isDotSegment value.toList = false) ∧
      Settled operation.path path.entries := by
  have template := safeTemplate_of_safePath valid.path
  have distinct := path.nodup_keys
  constructor
  · rintro ⟨segments, once, _⟩
    have whole := once path.entries [] (List.append_nil _).symm
    rw [whole] at built
    obtain ⟨supplied, faithful⟩ := (carries_iff encoder template built).mp segments
    obtain ⟨literals, values⟩ := (faithful_parts_iff keeps read supplied).mp faithful
    refine ⟨literals, supplied, values, settled_of_fillsInPlace template distinct ?_ occur once⟩
    intro name value listed known member
    exact slash ((values name value listed known).1 '/' member)
  · rintro ⟨literals, supplied, values, settled⟩
    have once := fillsInPlace_of_settled template distinct settled
    rw [once path.entries [] (List.append_nil _).symm] at built
    have faithful := (faithful_parts_iff keeps read supplied).mpr ⟨literals, values⟩
    have segments := (carries_iff encoder template built).mpr ⟨supplied, faithful⟩
    exact ⟨segments, once, namesTarget_of_carries same template valid.targets segments⟩

/-- A built URL is faithful exactly for plain paths; an encoding that can be read back asks for
values without percent signs too. -/
theorem url_faithful_iff [Platform] (json : String) (fingerprints : Fingerprints)
    (client : HttpMistClient) (accepted : Catalog.parse json fingerprints = .ok client.catalog)
    (origin : String) (request : MistRequest)
    (valid : request.validate client.catalog origin = .ok request) :
    ∃ operation, client.catalog.operation request.operationId = some operation ∧
      ∀ url, client.buildUrl request.operationId request.path request.query request.cursor =
          .ok url →
        (FaithfulUrl UrlPath.encodeChar operation request.path url ↔
          PlainPath operation request.path) ∧
        (FaithfulUrl UrlPath.encodeComponentChar operation request.path url ↔
          PlainPath operation request.path ∧ NoPercent operation request.path) := by
  obtain ⟨-, operation, checks⟩ := validate_eq_ok_iff.mp valid
  have found := checks.catalogued
  have loaded := Catalog.parse_loaded accepted
  have record := loaded.valid operation ((loaded.found _ _).mp found).1
  refine ⟨operation, found, ?_⟩
  intro url built
  obtain ⟨operation', expanded, _, _, found', expansion, _, _, rfl⟩ := buildUrl_eq_ok built
  obtain rfl := Option.some.inj (found.symm.trans found')
  have occur := expandPath_ok_iff.mp ⟨expanded, expansion⟩
  obtain rfl := expandPath_eq expansion
  constructor
  · rw [faithfulUrl_iff UrlPath.encoder_encodeChar _ (fun _ => UrlPath.read_encodeChar_iff)
      (fun _ plain _ => UrlPath.encodeChar_of_plain plain) (by decide) record occur rfl]
    constructor
    · rintro ⟨literals, supplied, values, settled⟩
      exact ⟨literals, supplied, values, settled⟩
    · rintro ⟨literals, supplied, values, settled⟩
      exact ⟨literals, supplied, values, settled⟩
  · rw [faithfulUrl_iff UrlPath.encoder_encodeComponentChar _
      (fun _ => UrlPath.read_encodeComponentChar_iff)
      (fun _ => UrlPath.encodeComponentChar_of_plain) (by decide) record occur rfl]
    constructor
    · rintro ⟨literals, supplied, values, settled⟩
      refine ⟨⟨literals, supplied, fun name value listed known => ?_, settled⟩,
        fun name value listed known percent => ?_⟩
      · obtain ⟨kept, dots⟩ := values name value listed known
        exact ⟨fun character member => (kept character member).1, dots⟩
      · exact ((values name value listed known).1 '%' percent).2 rfl
    · rintro ⟨⟨literals, supplied, values, settled⟩, free⟩
      refine ⟨literals, supplied, fun name value listed known => ?_, settled⟩
      obtain ⟨kept, dots⟩ := values name value listed known
      refine ⟨fun character member => ⟨kept character member, ?_⟩, dots⟩
      rintro rfl
      exact free name value listed known member

end Urls

end RustMist

namespace RustMist.Network

section Paths

def pathClient : HttpMistClient := ⟨origin, catalog⟩

/-- This identifier of a network leads to the network of another organization. -/
def traversingId : String := "../../" ++ otherOrgId ++ "/networks/" ++ networkId

def traversal : MistRequest where
  operationId := getOrgNetwork.operationId
  path := SortedMap.ofList [("org_id", orgId), ("network_id", traversingId)]
  query := ∅
  json := none
  cursor := none

theorem validate_traversal :
    traversal.validate pathClient.catalog origin = .ok traversal := by
  have bounds : validateRequestBounds traversal = .ok () := by decide
  have parameters : validateParameters traversal getOrgNetwork catalog = .ok () := by
    decide
  exact validate_bare operation_get bounds parameters rfl rfl rfl

def traversedPath : List (List Char) :=
  ["api", "v1", "orgs", otherOrgId, "networks", networkId].map String.toList

theorem traversal_url :
    pathClient.buildUrl traversal.operationId traversal.path traversal.query traversal.cursor =
      .ok ⟨origin, traversedPath, []⟩ := by
  have expansion : expandPath traversal.operationId getOrgNetwork.path traversal.path.entries =
      .ok ("/api/v1/orgs/" ++ orgId ++ "/networks/" ++ traversingId) := by decide +kernel
  have segments : UrlPath.setPath ("/api/v1/orgs/" ++ orgId ++ "/networks/" ++ traversingId).toList =
      traversedPath := by decide +kernel
  rw [← segments]
  exact buildUrl_of_parts operation_get expansion rfl rfl

/-- A validated identifier turns an authorized read of one organization into a read of another. -/
theorem network_traverses :
    Catalog.fromJson (serdeToString (paddedDocument networkOperations).toJson) =
        .ok pathClient.catalog ∧
      traversal.validate pathClient.catalog origin = .ok traversal ∧
      pathClient.catalog.operation traversal.operationId = some (sealed getOrgNetwork) ∧
      targetFor (sealed getOrgNetwork).targetSelectors traversal.path = .ok (some target) ∧
      ∃ url, pathClient.buildUrl traversal.operationId traversal.path traversal.query
          traversal.cursor = .ok url ∧
        url.segments[3]? = some otherOrgId.toList ∧
        ¬FaithfulUrl UrlPath.encodeChar (sealed getOrgNetwork) traversal.path url ∧
        ¬FaithfulUrl UrlPath.encodeComponentChar (sealed getOrgNetwork) traversal.path url := by
  have derived : targetFor (sealed getOrgNetwork).targetSelectors traversal.path =
      .ok (some target) := by
    change targetFor [.org] traversal.path = _
    have supplied : traversal.path.get "org_id" = some orgId := by decide
    have accepted : MistTarget.org orgId = .ok target := MistTarget.org_ok_iff.mpr ⟨rfl, rfl⟩
    simp only [targetFor, supplied, accepted]
  have unnamed : ¬UrlNamesTarget (sealed getOrgNetwork) traversal.path
      ⟨origin, traversedPath, []⟩ := by
    intro names
    have segments : templateSegments (sealed getOrgNetwork).path =
        ["api", "v1", "orgs", "{org_id}", "networks", "{network_id}"] := by decide
    have placed := (names target derived).2
    rw [segments] at placed
    have fourth := (List.forall₂_iff_get.mp placed).2 3 (by decide) (by decide) (by decide)
    exact absurd fourth (by decide)
  exact ⟨catalog_accepted, validate_traversal, operation_get, derived, _, traversal_url,
    by decide, fun faithful => unnamed faithful.target,
    fun faithful => unnamed faithful.target⟩

theorem url_faithful_iff_network :
    ∃ operation, pathClient.catalog.operation request.operationId = some operation ∧
      ∀ url, pathClient.buildUrl request.operationId request.path request.query request.cursor =
          .ok url →
        (FaithfulUrl UrlPath.encodeChar operation request.path url ↔
          PlainPath operation request.path) ∧
        (FaithfulUrl UrlPath.encodeComponentChar operation request.path url ↔
          PlainPath operation request.path ∧ NoPercent operation request.path) :=
  url_faithful_iff _ .verify pathClient catalog_accepted origin request validate_request

end Paths

end RustMist.Network
