import Mathlib.Data.List.Induction
import ParseScope.Proofs.Disk
import ParseScope.Proofs.Last
import ParseScope.Proofs.Settings.Standard

/-!
Which layer decides a setting. The last single setting of a key does, or else the last file that
gives the key a text, or else the default, whatever the layers do to other keys and however single
settings and files are mixed.
-/
namespace ParseScope.Settings

section

variable [Layering]

/-- One layer over the others. -/
inductive Layer
  | file (path : String)
  | style (chosen : Tree.Style)
  | indent (text : String)
  | set (key : Key) (text : String)

namespace Layer

def add (layers : Layers) : Layer → Except LoadError Layers
  | file path => .ok (layers.addFile path)
  | style chosen => layers.setStyle chosen
  | indent text => layers.setIndent text
  | set key text => layers.set key.dotted (.string text)

def source? : Layer → Option Source
  | file path => some (.file path)
  | _ => none

/-- The key that the layer sets, and the text it sets it to. -/
def setting? : Layer → Option (Key × String)
  | file _ => none
  | style chosen => some (.treeStyle,styleName chosen)
  | indent text => some (.traceIndent,text)
  | set key text => some (key,text)

/-- The layer is a single setting of the key. -/
def Sets (key : Key) (layer : Layer) (text : String) : Prop := layer.setting? = some (key,text)

/-- The layer is a file that gives the key a text. -/
def Defines (disk : Disk) (key : Key) (layer : Layer) (text : String) : Prop :=
  ∃ source entries, layer.source? = some source ∧ Layering.collect disk source = .ok entries ∧
    key.given? entries = some (.string text)

/-- The layer gives the key a text. -/
def Names (disk : Disk) (key : Key) (layer : Layer) : Prop :=
  ∃ text, layer.Sets key text ∨ layer.Defines disk key text

/-- If the layer is a file, it names keys plainly and gives them nothing but texts. -/
def Plain (disk : Disk) (layer : Layer) : Prop :=
  ∀ source entries, layer.source? = some source → Layering.collect disk source = .ok entries →
    Settings.Plain entries

def single? (layer : Layer) : Option (Layering.Place × Value) :=
  layer.setting?.bind fun (key,text) =>
    (Layering.place key.dotted).toOption.map fun place => (place,.string text)

end Layer

/-- Loads the settings of layers that are added one by one. -/
def loadAll (layers : List Layer) (disk : Disk) : Except LoadError Settings := do
  let all ← layers.foldlM Layer.add {}
  all.load disk

/-- The text that the layers leave a key: of the last single setting of it, or else of the last file
that defines it, or else the default. -/
def Decides (disk : Disk) (layers : List Layer) (key : Key) : String → Prop :=
  LastOr (Layer.Sets key) layers <| LastOr (Layer.Defines disk key) layers
    (· = ({} : Settings).text key)

variable (lawful : Layering.Lawful)

include lawful

theorem Layer.add_eq (layers : Layers) (layer : Layer) : layer.add layers =
    .ok ⟨layers.sources ++ layer.source?.toList,layers.single ++ layer.single?.toList⟩ := by
  have set (key : Key) (text : String) : layers.set key.dotted (.string text) =
      .ok ⟨layers.sources ++ [],
        layers.single ++ ((Layering.place key.dotted).toOption.map (·,.string text)).toList⟩ := by
    obtain ⟨place,placed⟩ := lawful.place key
    rw [Layers.set,placed,List.append_nil]
    rfl
  cases layer with
  | file path => simp [add,Layers.addFile,source?,single?,setting?]
  | style chosen => exact set .treeStyle (styleName chosen)
  | indent text => exact set .traceIndent text
  | set key text => exact set key text

/-- Layers can always be added; files and single settings are kept apart, each in their order. -/
theorem foldlM_add_eq (layers : List Layer) (start : Layers) : layers.foldlM Layer.add start =
    .ok ⟨start.sources ++ layers.filterMap Layer.source?,
      start.single ++ layers.filterMap Layer.single?⟩ := by
  induction layers generalizing start with
  | nil => simp
  | cons layer rest ih =>
    rw [List.foldlM_cons,Layer.add_eq lawful]
    refine (ih _).trans ?_
    cases source : layer.source?
    all_goals
      cases single : layer.single?
      all_goals simp [source,single]

theorem loadAll_eq_ok_iff (layers : List Layer) (disk : Disk) (settings : Settings) :
    loadAll layers disk = .ok settings ↔ ∃ root,
      Layering.build disk (.text defaultText :: layers.filterMap Layer.source?)
        (layers.filterMap Layer.single?) = .ok root ∧ Layering.settings root = .ok settings := by
  rw [loadAll,foldlM_add_eq lawful]
  change Layers.load _ disk = _ ↔ _
  rw [Layers.load,bind_eq_ok_iff]
  simp only [mapError_eq_ok_iff,List.singleton_append,List.nil_append]

/-! ### Runs of layers -/

/-- What the sources give a key is what the layers of files decide on. -/
theorem value?_of_sources {disk : Disk} {layers : List Layer}
    (plain : ∀ layer ∈ layers, layer.Plain disk) {root : Value}
    (built : Layering.build disk (.text defaultText :: layers.filterMap Layer.source?) [] =
      .ok root)
    (key : Key) (text : String) : key.value? root = some (.string text) ↔
      LastOr (Layer.Defines disk key) layers (· = ({} : Settings).text key) text := by
  induction layers using List.reverseRecOn generalizing root with
  | nil =>
    obtain ⟨entries,_,read,_,merged⟩ := lawful.source disk [] (.text defaultText) root built
    obtain ⟨given,readAs,plain,defaults⟩ := lawful.defaults disk
    obtain rfl := Except.ok.inj (read.symm.trans readAs)
    rw [merged plain,defaults key]
    simp [LastOr,not_last_nil,eq_comm]
  | append_singleton layers layer ih =>
    obtain ⟨plainLayers,plainLast⟩ := List.forall_mem_append.mp plain
    rw [lastOr_concat_iff]
    cases file : layer.source? with
    | none =>
      have silent (other : String) : ¬ layer.Defines disk key other := by
        rintro ⟨source,_,given,_⟩
        exact absurd (file.symm.trans given) (Option.some_ne_none source).symm
      rw [List.filterMap_append,List.filterMap_cons_none file,List.filterMap_nil,
        List.append_nil] at built
      simp [silent,ih plainLayers built]
    | some source =>
      rw [List.filterMap_append,List.filterMap_cons_some file,List.filterMap_nil,
        ← List.cons_append] at built
      obtain ⟨entries,before,read,earlier,merged⟩ := lawful.source disk _ source root built
      have plainEntries := plainLast layer List.mem_cons_self source entries file read
      have defines (other : String) :
          layer.Defines disk key other ↔ key.given? entries = some (.string other) := by
        constructor
        · rintro ⟨source',entries',file',read',given⟩
          obtain rfl := Option.some.inj (file.symm.trans file')
          obtain rfl := Except.ok.inj (read.symm.trans read')
          exact given
        · exact fun given => ⟨source,entries,file,read,given⟩
      rw [merged plainEntries]
      simp only [defines]
      cases given : key.given? entries with
      | none => simp [ih plainLayers earlier]
      | some value =>
        obtain ⟨own,rfl⟩ := plainEntries.texts key value given
        simp

/-- Over what the sources leave the keys, the last single setting of a key decides. -/
theorem value?_of_single {disk : Disk} {sources : List Source} {start : Key → String → Prop}
    (base : ∀ root, Layering.build disk sources [] = .ok root → ∀ key text,
      key.value? root = some (.string text) ↔ start key text) (layers : List Layer) {root : Value}
    (built : Layering.build disk sources (layers.filterMap Layer.single?) = .ok root) (key : Key)
    (text : String) : key.value? root = some (.string text) ↔
      LastOr (Layer.Sets key) layers (start key) text := by
  induction layers using List.reverseRecOn generalizing root with
  | nil =>
    rw [base root built]
    simp [LastOr,not_last_nil]
  | append_singleton layers layer ih =>
    rw [lastOr_concat_iff]
    cases set : layer.setting? with
    | none =>
      have none : layer.single? = none := by rw [Layer.single?,set]; rfl
      rw [List.filterMap_append,List.filterMap_cons_none none,List.filterMap_nil,
        List.append_nil] at built
      simp [Layer.Sets,set,ih built]
    | some setting =>
      obtain ⟨own,given⟩ := setting
      obtain ⟨place,placed⟩ := lawful.place own
      have single : layer.single? = some (place,.string given) := by
        simp only [Layer.single?,set,Option.bind_some,placed]
        rfl
      rw [List.filterMap_append,List.filterMap_cons_some single,List.filterMap_nil] at built
      obtain ⟨before,earlier,changed⟩ :=
        lawful.single disk sources _ own place given root placed built
      rw [changed key,Layer.Sets]
      by_cases same : key = own
      · simp [Layer.Sets,set,same]
      · simp [Layer.Sets,set,same,Ne.symm same,ih earlier]

theorem read?_of_decides {layers : List Layer} {disk : Disk} {settings : Settings}
    (plain : ∀ layer ∈ layers, layer.Plain disk) (loaded : loadAll layers disk = .ok settings)
    {key : Key} {text : String} (decides : Decides disk layers key text) :
    key.read? text = some (settings.text key) := by
  obtain ⟨root,built,checked⟩ := (loadAll_eq_ok_iff lawful layers disk settings).mp loaded
  have standing := (value?_of_single lawful
    (fun _ built => value?_of_sources lawful plain built) layers built key text).mpr decides
  exact lawful.settings root settings key text checked standing

/-- Files and single settings may be mixed in any way that keeps each of them in their order. -/
theorem loadAll_congr {layers others : List Layer}
    (files : others.filterMap Layer.source? = layers.filterMap Layer.source?)
    (settings : others.filterMap Layer.setting? = layers.filterMap Layer.setting?) (disk : Disk) :
    loadAll others disk = loadAll layers disk := by
  have single : others.filterMap Layer.single? = layers.filterMap Layer.single? := by
    unfold Layer.single?
    rw [← List.filterMap_filterMap,← List.filterMap_filterMap,settings]
  rw [loadAll,loadAll,foldlM_add_eq lawful,foldlM_add_eq lawful,files,single]

omit lawful

/-! ### Settings key by key -/

theorem exists_decides (disk : Disk) (layers : List Layer) (key : Key) :
    ∃ text, Decides disk layers key text :=
  exists_lastOr layers (exists_lastOr layers ⟨_,rfl⟩)

theorem decides_iff_of_not_names {disk : Disk} {key : Key} {layer : Layer}
    (silent : ¬ layer.Names disk key) (before after : List Layer) (text : String) :
    Decides disk (before ++ layer :: after) key text ↔ Decides disk (before ++ after) key text := by
  have noSetting (other : String) : ¬ layer.Sets key other := fun set => silent ⟨other,.inl set⟩
  have noFile (other : String) : ¬ layer.Defines disk key other :=
    fun defines => silent ⟨other,.inr defines⟩
  have files : LastOr (Layer.Defines disk key) (before ++ layer :: after)
        (· = ({} : Settings).text key) =
      LastOr (Layer.Defines disk key) (before ++ after) (· = ({} : Settings).text key) :=
    funext fun text => propext (lastOr_insert_iff before layer after noFile text)
  rw [Decides,lastOr_insert_iff before layer after noSetting,files,Decides]

/-- The settings have for each key what the layers decide on: the text of the last single setting of
it, or else of the last file that defines it, or else the default. So single settings and files may
be mixed in any way that keeps each of them in their order, and a layer has no effect on a key that
it does not name. -/
theorem loadAll_key_by_key (lawful : Layering.Lawful) (layers : List Layer) (disk : Disk)
    (settings : Settings) (plain : ∀ layer ∈ layers, layer.Plain disk)
    (loaded : loadAll layers disk = .ok settings) :
    (∀ key, (∃ text, Decides disk layers key text) ∧
      ∀ text, Decides disk layers key text → key.read? text = some (settings.text key)) ∧
    (∀ others : List Layer, others.filterMap Layer.source? = layers.filterMap Layer.source? →
      others.filterMap Layer.setting? = layers.filterMap Layer.setting? →
      loadAll others disk = .ok settings) ∧
    ∀ before layer after other, layers = before ++ layer :: after →
      loadAll (before ++ after) disk = .ok other →
      ∀ key, ¬ layer.Names disk key → other.text key = settings.text key := by
  refine ⟨fun key => ⟨exists_decides disk layers key,fun text => ?_⟩,?_,?_⟩
  · exact read?_of_decides lawful plain loaded
  · intro others files single
    rw [loadAll_congr lawful files single,loaded]
  · rintro before layer after other rfl less key silent
    obtain ⟨text,decides⟩ := exists_decides disk (before ++ after) key
    have whole := (decides_iff_of_not_names silent before after text).mpr decides
    have plainLess : ∀ layer ∈ before ++ after, layer.Plain disk := by
      intro kept member
      refine plain kept ?_
      rcases List.mem_append.mp member with early | late
      · exact List.mem_append_left _ early
      · exact List.mem_append_right _ (List.mem_cons_of_mem _ late)
    have told := read?_of_decides lawful plainLess less decides
    exact Option.some.inj (told.symm.trans (read?_of_decides lawful plain loaded whole))

end

/-- A file that gives two keys a text, and a date to another name. -/
def mixedText : String :=
  "[tree]\nstyle = 'bars'\nsince = 1979-05-27\n[highlight]\nerror_set = 'theirs'\n"

def mixedDisk : Disk where
  find _ := .ok (.file mixedText.toUTF8)

def mixedEntries : List (String × Value) :=
  [ ("tree",.table [("style",.string "bars"),("since",.string "1979-05-27")]),
    ("highlight",.table [("error_set",.string "theirs")]) ]

theorem collect_mixedDisk (path : String) :
    Layering.collect mixedDisk (.file path) = .ok mixedEntries := by
  have read : Toml.read? (Standard.withoutMark mixedText.toList) = some mixedEntries := by
    rw [mixedText,String.toList_ofList]
    cbv
  exact Standard.collect_file (mixedDisk.holds_toUTF8 path mixedText rfl) read

theorem plain_mixedEntries : Plain mixedEntries := by
  refine .of_tables (by decide +kernel) (by decide +kernel) ?_
  intro entry member
  simp only [mixedEntries,List.mem_cons,List.not_mem_nil,or_false] at member
  rcases member with rfl | rfl
  all_goals exact ⟨_,rfl,by decide +kernel,by simp⟩

/-- What the defaults and the file come to. -/
def mixedRoot : Value :=
  Standard.addEntries (Standard.addEntries (.table []) Standard.defaultEntries) mixedEntries

theorem build_mixedDisk (single : List (Path × Value)) :
    Standard.build mixedDisk [.text defaultText,.file "a.toml"] single =
      .ok (Standard.addSingle mixedRoot single) := by
  have first : Standard.layered mixedDisk [.text defaultText] =
      .ok (Standard.addEntries (.table []) Standard.defaultEntries) :=
    (Standard.layered_concat_eq_ok_iff _ [] _ _).mpr
      ⟨_,_,rfl,Standard.collect_defaultText mixedDisk,rfl⟩
  have both := (Standard.layered_concat_eq_ok_iff mixedDisk [.text defaultText]
    (.file "a.toml") _).mpr ⟨_,_,first,collect_mixedDisk "a.toml",rfl⟩
  exact (Standard.build_eq_ok_iff _ _ _ _).mpr ⟨_,both,rfl⟩

/-- Each path of the disk leads to this file. -/
theorem plain_mixedDisk (layer : Layer) : layer.Plain mixedDisk := by
  intro source entries file read
  cases layer with
  | file path =>
    obtain rfl := Option.some.inj file
    obtain rfl := Except.ok.inj ((collect_mixedDisk path).symm.trans read)
    exact plain_mixedEntries
  | style | indent | set => exact absurd file (Option.some_ne_none source).symm

theorem not_names_indent (disk : Disk) (text : String) :
    ¬ (Layer.indent text).Names disk .errorSet := by
  rintro ⟨other,sets | ⟨source,_,file,_⟩⟩
  · simp [Layer.Sets,Layer.setting?] at sets
  · exact absurd file (Option.some_ne_none source).symm

def mixedSettings : Settings := { treeStyle := .bars, traceIndent := "| ", errorSet := "mine" }

/-- The file overrules a default, but not the single setting before it. -/
theorem mixed_key_by_key :
    loadAll [.set .errorSet "mine",.file "a.toml",.indent "| "] mixedDisk = .ok mixedSettings ∧
    (∀ key text, Decides mixedDisk [.set .errorSet "mine",.file "a.toml",.indent "| "] key text →
      key.read? text = some (mixedSettings.text key)) ∧
    loadAll [.file "a.toml",.set .errorSet "mine",.indent "| "] mixedDisk = .ok mixedSettings ∧
    loadAll [.set .errorSet "mine",.file "a.toml"] mixedDisk =
      .ok { mixedSettings with traceIndent := "  " } ∧
    ({ mixedSettings with traceIndent := "  " } : Settings).text .errorSet =
      mixedSettings.text .errorSet := by
  have loaded :
      loadAll [.set .errorSet "mine",.file "a.toml",.indent "| "] mixedDisk = .ok mixedSettings :=
    (loadAll_eq_ok_iff Standard.lawful _ _ _).mpr ⟨_,build_mixedDisk _,by decide +kernel⟩
  have less : loadAll [.set .errorSet "mine",.file "a.toml"] mixedDisk =
      .ok { mixedSettings with traceIndent := "  " } :=
    (loadAll_eq_ok_iff Standard.lawful _ _ _).mpr ⟨_,build_mixedDisk _,by decide +kernel⟩
  obtain ⟨decided,reordered,removed⟩ :=
    loadAll_key_by_key Standard.lawful _ mixedDisk _ (fun layer _ => plain_mixedDisk layer) loaded
  exact ⟨loaded,fun key => (decided key).2,reordered _ rfl rfl,less,
    removed [.set .errorSet "mine",.file "a.toml"] _ [] _ rfl less .errorSet
      (not_names_indent mixedDisk "| ")⟩

end ParseScope.Settings
