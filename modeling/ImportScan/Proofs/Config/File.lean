import ImportScan.Config.File
import ImportScan.Proofs.Config.Layers
import ImportScan.Proofs.Text.Stream
import ImportScan.Yaml.Platform

/-! # Configuration files

    A configuration file whose document is a mapping gives its entries, and one that cannot be
    used counts as empty and is reported.  There is one exception: when the YAML library asks for
    octets that are no UTF-8, nobody deals with them, and no configuration comes out.

    * `Config.Loads`     : what is loaded when the YAML library has told something.
    * `Config.load_file` : what is loaded, for every path and whatever is there.
-/

namespace ImportScan

namespace Disk

variable {d : Disk} {path : Text}

/-- A file can be read. -/
theorem exists_read (h : d.isFile path = true) : ∃ content, d.read path = .ok content := by
  unfold isFile stat? at h
  cases hplace : d.resolve true path with
  | error cause => simp [hplace] at h
  | ok place =>
    obtain ⟨l, e⟩ := place
    simp only [hplace] at h
    have hlocate : d.locate true path = .ok (l, e) := by rw [locate, hplace]
    match e, h with
    | some (.file content mtime), _ =>
      refine ⟨content, ?_⟩
      rw [read, hlocate]
      rfl

end Disk

namespace Setting

variable {raw : Datum}

/-! ## Faults of casts -/

/-- A fault that has nothing to do with octets. -/
abbrev Decoded (f : Fault) : Prop := f ≠ .undecodable

theorem toText_decoded : FailsOnly Decoded (toText raw) := by
  unfold toText
  split
  · exact .error nofun
  · exact .ok _

theorem splitExtensions_decoded : FailsOnly Decoded (splitExtensions raw) := by
  unfold splitExtensions
  split
  · exact .ok _
  · split
    · exact (FailsOnly.mapM fun _ _ => toText_decoded).map _
    · exact .error nofun

theorem unreadInteger_decoded (t : Text) : Decoded (.unreadInteger t) := by
  unfold Fault.unreadInteger
  split <;> nofun

theorem toInt_decoded : FailsOnly Decoded (toInt raw) := by
  unfold toInt
  split
  case h_6 t =>
    -- a text that may be no number
    split
    · exact .ok _
    · exact .error (unreadInteger_decoded t)
  all_goals first | exact .ok _ | exact .error nofun

theorem toReal_decoded : FailsOnly Decoded (toReal raw) := by
  unfold toReal
  split
  case h_3 =>
    -- an integer, which may be too large
    split
    · exact .error nofun
    · exact .ok _
  case h_4 =>
    split
    · exact .ok _
    · exact .error nofun
  all_goals first | exact .ok _ | exact .error nofun

theorem cast_decoded (s : Setting) (raw : Datum) : FailsOnly Decoded (s.cast raw) := by
  cases s with
  | extensions => exact splitExtensions_decoded
  | version => exact toInt_decoded
  | debounce => exact toReal_decoded
  | _ => exact toText_decoded.map _

end Setting

namespace Config

/-- A configuration that cannot be made is not for want of a text. -/
theorem make_decoded (env : Environment) (es : List (Datum × Datum)) :
    FailsOnly Setting.Decoded (make env es) := by
  intro f hf
  obtain ⟨before, s, after, -, -, hfault⟩ := make_eq_error_iff.mp hf
  -- the fault is that of a cast, since a default has none
  generalize hr : Except.error f = r at hfault
  cases hfault with
  | ofVariable hset => exact Setting.cast_decoded s _ f hr.symm
  | ofFile hunset hraw hvalue => exact Setting.cast_decoded s _ f hr.symm
  | ofDefault => cases hr

/-- What is loaded when the YAML library has told something of a file: the entries of a mapping
    count, and anything else that is no fault of a scalar counts as empty and is reported. -/
inductive Loads (env : Environment) (path : Text) :
    Except Yaml.Failure Datum → Except Fault Config × List LogLine → Prop where
  | mapping (es : List (Datum × Datum)) : Loads env path (.ok (.map es)) (make env es, [])
  | other {document : Datum} (hother : ∀ es, document ≠ .map es) (reason : Text) :
      Loads env path (.ok document) (make env [], [ignoredLine path reason])
  | malformed (reason : Text) :
      Loads env path (.error .malformed) (make env [], [ignoredLine path reason])
  | fault (f : Fault) : Loads env path (.error (.fault f)) (.error f, [])

theorem loads_readYaml (env : Environment) (path : Text) (told : Except Yaml.Failure Datum) :
    Loads env path told ((readYaml path told).1.bind (make env), (readYaml path told).2) := by
  rcases told with (_ | f) | document
  · exact .malformed _
  · exact .fault f
  · cases document with
    | map es => exact .mapping es
    | _ => exact .other (by rintro es ⟨⟩) _

section

variable [Platform] {h : Host} {d : Disk} {explicit : Option Text} {path : Text} {content : Bytes}
  {t : Text} {es : List (Datum × Datum)} {lines : List LogLine} {f : Fault}
  {told : Except Yaml.Failure Datum}

/-! ## The file that counts -/

theorem find?_explicit (hpath : path ≠ []) :
    find? h d (some path) = if d.isFile (Path.join h.cwd path) then some path else none := by
  obtain ⟨c, rest, rfl⟩ := List.exists_cons_of_ne_nil hpath
  rw [find?, candidates, List.find?_singleton]

theorem isFile_of_find? (hfind : find? h d explicit = some path) :
    d.isFile (Path.join h.cwd path) = true := by
  have hfile := List.find?_some hfind
  exact hfile

/-! ## What is read -/

theorem readFile_refused (hread : d.read (Path.join h.cwd path) = .error f) :
    readFile h d path = (.ok [], [ignoredLine path f.message]) := by
  rw [readFile, hread]

theorem readFile_told (hread : d.read (Path.join h.cwd path) = .ok content)
    (htold : Yaml.told? (TextFile.portions content) = some told) :
    readFile h d path = readYaml path told := by
  simp only [readFile, hread, htold]

theorem readFile_undecodable (hread : d.read (Path.join h.cwd path) = .ok content)
    (htold : Yaml.told? (TextFile.portions content) = none) :
    readFile h d path = (.error .undecodable, []) := by
  simp only [readFile, hread, htold]

/-- A file that is UTF-8 is told to be what its text is. -/
theorem told?_of_utf8? (htext : t.utf8? = some content) :
    Yaml.told? (TextFile.portions content) = some (Yaml.load t.normalizeNewlines) := by
  rw [TextFile.portions_of_utf8? htext, Yaml.told?_portionsOf]

/-! ## What is loaded -/

theorem load_of_find? (hfind : find? h d explicit = some path) :
    load h d explicit
      = ((readFile h d path).1.bind (make h.env), (readFile h d path).2) := by
  simp only [load, hfind]
  obtain ⟨r, lines⟩ := readFile h d path
  cases r with
  | ok es => rfl
  | error f => rfl

theorem load_told (hfind : find? h d explicit = some path)
    (hread : d.read (Path.join h.cwd path) = .ok content)
    (htold : Yaml.told? (TextFile.portions content) = some told) :
    Loads h.env path told (load h d explicit) := by
  rw [load_of_find? hfind, readFile_told hread htold]
  exact loads_readYaml h.env path told

end

/-- What is loaded for a path.  Without a file nothing is configured but what the environment
    says.  With one that is UTF-8, it is what the document of its text says.  With one that is
    not, the YAML library is given what can be decoded, and never all of it: what it finds wrong
    there is dealt with as in a text, but when it asks for more, as it does of every short file,
    no configuration is loaded, although one could be made. -/
theorem load_file [Platform] (h : Host) (d : Disk) (explicit : Option Text) :
    (∀ path, path ≠ [] → find? h d (some path)
        = if d.isFile (Path.join h.cwd path) then some path else none)
      ∧ (find? h d explicit = none → load h d explicit = (make h.env [], []))
      ∧ (∀ path, find? h d explicit = some path →
        ∃ content, d.read (Path.join h.cwd path) = .ok content
          ∧ (∀ t : Text, t.utf8? = some content →
            Loads h.env path (Yaml.load t.normalizeNewlines) (load h d explicit))
          ∧ ((∀ t : Text, t.utf8? ≠ some content) →
            (∀ told, Yaml.told? (TextFile.portions content) = some told →
              (∃ why, told = .error why) ∧ Loads h.env path told (load h d explicit))
            ∧ (Yaml.told? (TextFile.portions content) = none →
              load h d explicit = (.error .undecodable, [])
                ∧ ∀ es, make h.env es ≠ .error .undecodable)
            ∧ (content.length < TextFile.portionSize →
              Yaml.told? (TextFile.portions content) = none)))
      ∧ ∀ path f, d.read (Path.join h.cwd path) = .error f →
        readFile h d path = (.ok [], [ignoredLine path f.message]) := by
  refine ⟨fun path hpath => find?_explicit hpath, fun hnone => ?_, fun path hfind => ?_,
    fun path f hread => readFile_refused hread⟩
  · rw [load, hnone]
  · -- the file is there, so it can be read, and what it holds decides
    obtain ⟨content, hread⟩ := Disk.exists_read (isFile_of_find? hfind)
    refine ⟨content, hread, fun t htext => load_told hfind hread (told?_of_utf8? htext),
      fun hnone => ⟨fun told htold => ⟨?_, load_told hfind hread htold⟩, fun htold => ?_,
        fun hshort => ?_⟩⟩
    · cases told with
      | error why => exact ⟨why, rfl⟩
      | ok document =>
        -- data are told at the end of a file only, and this one does not come to it
        exact absurd (Yaml.mem_of_toldAfter? htold) (TextFile.notMem_portions hnone)
    · refine ⟨?_, fun es hmake => make_decoded h.env es _ hmake rfl⟩
      rw [load_of_find? hfind, readFile_undecodable hread htold]
      rfl
    · rw [TextFile.portions_of_short hnone hshort, Yaml.told?_nil]

/-! A file that selects a parser, and one that holds a single octet of no character. -/

namespace Single

def host : Host := ⟨"/w", []⟩

def name : Text := "c.yaml"

/-- A directory with one file. -/
def holding (content : Bytes) : Disk := ⟨[(["w"], .directory), (["w", name], .file content .zero)]⟩

theorem find?_holding (content : Bytes) : find? host (holding content) (some name) = some name := by
  have hfile : (holding content).isFile (Path.join host.cwd name) = true := rfl
  rw [find?_explicit (by decide), if_pos hfile]

theorem read_holding (content : Bytes) :
    (holding content).read (Path.join host.cwd name) = .ok content := rfl

/-- The parser that the document of a text selects. -/
def parser? (t : Text) : Option Text :=
  match Yaml.load t.normalizeNewlines with
  | .ok (.map es) =>
    match Datum.lookup es (.str "parser") with
    | .text selected => some selected
    | _ => none
  | _ => none

theorem exists_entries {t selected : Text} (h : parser? t = some selected) :
    ∃ es, Yaml.load t.normalizeNewlines = .ok (.map es)
      ∧ Datum.lookup es (.str "parser") = .text selected := by
  unfold parser? at h
  split at h
  case h_1 es hload =>
    split at h
    case h_1 found hfound =>
      obtain rfl : found = selected := Option.some.inj h
      exact ⟨es, hload, hfound⟩
    case h_2 => cases h
  case h_2 => cases h

end Single

theorem load_file_selecting :
    ∃ es, Datum.lookup es (.str "parser") = .str "esprima"
      ∧ load Single.host (Single.holding (Text.utf8 "parser: esprima")) (some Single.name)
        = (make [] es, []) := by
  have hparser : Single.parser? "parser: esprima" = some (Text.ofString "esprima") := by
    decide +kernel
  obtain ⟨es, hload, hselected⟩ := Single.exists_entries hparser
  refine ⟨es, hselected, ?_⟩
  -- what is read is the content of the file, which is UTF-8
  obtain ⟨content, hread, htext, -⟩ :=
    (load_file Single.host (Single.holding (Text.utf8 "parser: esprima")) (some Single.name)).2.2.1
      Single.name (Single.find?_holding _)
  obtain rfl := Except.ok.inj ((Single.read_holding _).symm.trans hread)
  have hutf8 : Text.utf8? "parser: esprima" = some (Text.utf8 "parser: esprima") :=
    if_neg (by decide)
  have hloads := htext _ hutf8
  rw [hload] at hloads
  generalize load Single.host _ _ = loaded at hloads ⊢
  cases hloads with
  | mapping => rfl
  | other hother => exact absurd rfl (hother es)

/-- Nothing is loaded from the octet, although a configuration could be made without the file. -/
theorem load_undecodable :
    load Single.host (Single.holding [0xFF]) (some Single.name) = (.error .undecodable, [])
      ∧ ∃ c, make Single.host.env [] = .ok c := by
  have htext : Text.ofUtf8? [0xFF] = none := by decide +kernel
  have hnone : ∀ t : Text, t.utf8? ≠ some [0xFF] := by
    intro t ht
    rw [Text.ofUtf8?_eq_some_iff.mpr ht] at htext
    cases htext
  have htold : Yaml.told? (TextFile.portions [0xFF]) = none := by
    rw [TextFile.portions_of_short hnone (by decide), Yaml.told?_nil]
  constructor
  · rw [load_of_find? (Single.find?_holding _),
      readFile_undecodable (Single.read_holding _) htold]
    rfl
  · have hsome : (make Single.host.env []).toOption.isSome := by decide +kernel
    obtain ⟨c, hc⟩ := Option.isSome_iff_exists.mp hsome
    exact ⟨c, eq_ok_of_toOption hc⟩

end Config

end ImportScan
