import SchemaArtifacts.CommandLine.Generation
import SchemaArtifacts.Proofs.Artifact.Documents
import SchemaArtifacts.Proofs.Settings.ReadBack

/-!
# Settings of an order

An order writes its flags into the settings of its file, takes the dialect out and lays the rest
over the defaults of each kind.  That comes to laying the file over the defaults and the flags over
both.
-/

namespace SchemaArtifacts

namespace Keyed

variable {α : Type}

def present (entries : Keyed (Option α)) : Keyed α :=
  entries.filterMap fun entry => entry.2.map (entry.1, ·)

theorem keys_present_sublist (entries : Keyed (Option α)) :
    (keys (present entries)).Sublist (keys entries) := by
  induction entries with
  | nil => exact .slnil
  | cons entry rest ih =>
      obtain ⟨key, value?⟩ := entry
      cases value? with
      | none => exact ih.cons key
      | some value => exact ih.cons_cons key

theorem get?_present {entries : Keyed (Option α)} (distinct : (keys entries).Nodup)
    (key : String) : get? (present entries) key = (get? entries key).join := by
  induction entries with
  | nil => rfl
  | cons entry rest ih =>
      obtain ⟨found, value?⟩ := entry
      obtain ⟨absent, distinct⟩ := List.nodup_cons.mp distinct
      have others := ih distinct
      rw [get?_cons]
      cases value? with
      | none =>
          change get? (present rest) key = _
          rw [others]
          by_cases same : key = found
          · rw [if_pos same, same, get?_eq_none_iff.mpr absent]
            rfl
          · rw [if_neg same]
      | some value =>
          change get? ((found, value) :: present rest) key = _
          rw [get?_cons, others]
          by_cases same : key = found <;> simp [same]

theorem get?_putAny (key other : String) (value? : Option α) (entries : Keyed α) :
    get? (putAny key value? entries) other =
      (if other = key then value? else none).or (get? entries other) := by
  cases value? with
  | none => rw [putAny, ite_self, Option.none_or]
  | some value =>
      rw [putAny, get?_put]
      split <;> rfl

theorem nodup_keys_putAny {entries : Keyed α} (distinct : (keys entries).Nodup) (key : String)
    (value? : Option α) : (keys (putAny key value? entries)).Nodup := by
  cases value? with
  | none => exact distinct
  | some value => exact nodup_keys_put distinct key value

theorem filter_putAny (kept : String → Bool) {key : String} (dropped : kept key = false)
    (value? : Option α) (entries : Keyed α) :
    (putAny key value? entries).filter (fun entry => kept entry.1) =
      entries.filter fun entry => kept entry.1 := by
  cases value? with
  | none => rfl
  | some value => rw [putAny, filter_put, dropped, if_neg (by decide)]

end Keyed

namespace CommandLine

open Artifact Files Sample Settings

namespace Order

variable (order : Order) {layer : Keyed Json}

def dialectFlag? : Option Json :=
  if order.dialect = "" then none else some (.str order.dialect)

def commentsFlag? : Option Json := if order.omitsComments then some (.bool false) else none

def seedFlag? : Option Json := order.seed.map .int

def rowsFlag? : Option Json := order.sampleRows.map .int

def flagTable : Keyed (Option Json) :=
  [("dialect", order.dialectFlag?), ("sample_seed", order.seedFlag?),
   ("sample_rows", order.rowsFlag?), ("add_comments", order.commentsFlag?)]

def flags : Keyed Json := Keyed.present order.flagTable

theorem nodup_keys_flagTable : (Keyed.keys order.flagTable).Nodup := by
  change ["dialect", "sample_seed", "sample_rows", "add_comments"].Nodup
  decide

theorem isKnownOnly_flags : IsKnownOnly order.flags where
  distinct := order.nodup_keys_flagTable.sublist (Keyed.keys_present_sublist _)
  known := by
    intro name mem
    have all : ∀ name ∈ ["dialect", "sample_seed", "sample_rows", "add_comments"],
        isKnown name = true ∧ name ≠ "custom" := by decide
    exact all name ((Keyed.keys_present_sublist _).mem mem)

def marked (layer : Keyed Json) : Keyed Json :=
  Keyed.putAny "sample_seed" order.seedFlag? (Keyed.putAny "add_comments" order.commentsFlag? layer)

def dialectOver (layer : Keyed Json) : Json :=
  order.dialectFlag?.getD <|
    let named := (Keyed.get? layer "dialect").getD .null
    if named.isSet then named else .str "postgres"

def written (layer : Keyed Json) : Keyed Json :=
  Keyed.putAny "sample_rows" order.rowsFlag? <|
    Keyed.put "dialect" (order.dialectOver layer) <|
      if order.dialect = "" then Keyed.erase "dialect" (order.marked layer) else order.marked layer

theorem get?_marked (layer : Keyed Json) {name : String} (other : name ≠ "sample_seed")
    (other' : name ≠ "add_comments") :
    Keyed.get? (order.marked layer) name = Keyed.get? layer name := by
  rw [marked, Keyed.get?_putAny, if_neg other, Keyed.get?_putAny, if_neg other', Option.none_or,
    Option.none_or]

theorem settingsAndDialect_eq (layer : Keyed Json) :
    order.settingsAndDialect layer =
      (if order.dialect = "" then Keyed.erase "dialect" (order.marked layer)
        else order.marked layer, order.dialectOver layer) := by
  have whole : order.settingsAndDialect layer =
      if order.dialect ≠ "" then (order.marked layer, .str order.dialect)
      else
        let named := (Keyed.get? (order.marked layer) "dialect").getD .null
        (Keyed.erase "dialect" (order.marked layer),
          if named.isSet then named else .str "postgres") := by
    rw [settingsAndDialect, marked, seedFlag?, commentsFlag?]
    cases order.omitsComments <;> cases order.seed <;> rfl
  rw [whole, order.get?_marked layer (by decide) (by decide)]
  by_cases silent : order.dialect = "" <;> simp [dialectOver, dialectFlag?, silent]

theorem exists_options {tree : Tree} (readDate : Sample.DateReader) {kinds : List Kind}
    (loaded : fileLayer tree order.settings = .ok layer) (chosen : order.kinds = .ok kinds) :
    ∃ options, order.options tree readDate = .ok options ∧ options.kinds = kinds ∧
      options.overrides = .ok (order.written layer) := by
  refine ⟨{
    kinds
    dialect := order.dialectOver layer
    sampleRows := order.rowsFlag?.getD .null
    supply := { readDate }
    settings := .obj (if order.dialect = "" then Keyed.erase "dialect" (order.marked layer)
      else order.marked layer) }, ?_, rfl, ?_⟩
  · rw [fileLayer] at loaded
    rw [Order.options]
    by_cases unnamed : order.settings = ""
    · rw [if_pos unnamed] at loaded ⊢
      cases loaded
      simp only [bind, Except.bind, pure, Except.pure, settingsAndDialect_eq, chosen]
      rfl
    · rw [if_neg unnamed] at loaded ⊢
      simp only [bind, Except.bind, Except.mapError, loaded, settingsAndDialect_eq, chosen]
      rfl
  · rw [Options.overrides, written, rowsFlag?]
    cases order.sampleRows <;> rfl

theorem dialectOver_eq
    (named : order.dialect = "" → ∀ value, Keyed.get? layer "dialect" = some value →
      value.isSet = true) :
    order.dialectOver layer =
      (order.dialectFlag?.or (Keyed.get? layer "dialect")).getD (.str "postgres") := by
  rw [dialectOver, dialectFlag?]
  by_cases silent : order.dialect = ""
  · rw [if_pos silent, Option.none_or, Option.getD_none]
    cases found : Keyed.get? layer "dialect" with
    | none => rfl
    | some value => simp [named silent value found]
  · simp [silent]

theorem nodup_keys_written (distinct : (Keyed.keys layer).Nodup) :
    (Keyed.keys (order.written layer)).Nodup := by
  have marked : (Keyed.keys (order.marked layer)).Nodup :=
    Keyed.nodup_keys_putAny (Keyed.nodup_keys_putAny distinct _ _) _ _
  refine Keyed.nodup_keys_putAny (Keyed.nodup_keys_put ?_ _ _) _ _
  split
  · exact Keyed.nodup_keys_erase marked _
  · exact marked

theorem filter_unknown_written (layer : Keyed Json) :
    ((order.written layer).filter fun entry => !isKnown entry.1) =
      layer.filter fun entry => !isKnown entry.1 := by
  have marked : ((order.marked layer).filter fun entry => !isKnown entry.1) =
      layer.filter fun entry => !isKnown entry.1 := by
    rw [marked, Keyed.filter_putAny (fun name => !isKnown name) (by decide),
      Keyed.filter_putAny (fun name => !isKnown name) (by decide)]
  rw [written, Keyed.filter_putAny (fun name => !isKnown name) (by decide),
    Keyed.filter_put (fun name => !isKnown name), if_neg (by decide)]
  split
  · rw [Keyed.filter_erase (fun name => !isKnown name) (by decide), marked]
  · exact marked

theorem get?_written {name : String} (layer : Keyed Json) :
    Keyed.get? (order.written layer) name =
      if name = "dialect" then some (order.dialectOver layer)
      else (Keyed.get? order.flags name).or (Keyed.get? layer name) := by
  have marked (other : name ≠ "dialect") :
      Keyed.get? (if order.dialect = "" then Keyed.erase "dialect" (order.marked layer)
        else order.marked layer) name = Keyed.get? (order.marked layer) name := by
    split
    · rw [Keyed.get?_erase, if_neg other]
    · rfl
  rw [flags, Keyed.get?_present order.nodup_keys_flagTable, written, Keyed.get?_putAny,
    Keyed.get?_put]
  by_cases dialect : name = "dialect"
  · simp [dialect]
  · rw [if_neg dialect, if_neg dialect, marked dialect, Order.marked, Keyed.get?_putAny,
      Keyed.get?_putAny, flagTable]
    simp only [Keyed.get?_cons, dialect, if_false]
    by_cases rows : name = "sample_rows"
    · simp [rows]
    · by_cases seed : name = "sample_seed"
      · simp [seed]
      · by_cases comments : name = "add_comments" <;> simp [rows, seed, comments]

theorem combines_written (artifact : String) (distinct : (Keyed.keys layer).Nodup)
    (named : order.dialect = "" → ∀ value, Keyed.get? layer "dialect" = some value →
      value.isSet = true) :
    Combines artifact order.flags layer (order.written layer) where
  distinct := order.nodup_keys_written distinct
  unknown := order.filter_unknown_written layer
  custom := by
    have silent := Keyed.get?_eq_none_iff.mpr order.isKnownOnly_flags.custom_not_mem
    rw [get?_written, if_neg (by decide), silent, Option.none_or]
  known := by
    intro name known other
    rw [firstKnown?, firstKnown?, get?_written, Keyed.get?_nil, Option.none_or]
    by_cases dialect : name = "dialect"
    · subst dialect
      have flag : Keyed.get? order.flags "dialect" = order.dialectFlag? := by
        rw [flags, Keyed.get?_present order.nodup_keys_flagTable]
        rfl
      -- The dialect is written even if it is the default one, which every kind starts from.
      rw [if_pos rfl, flag, order.dialectOver_eq named, default_dialect, ← Option.or_assoc]
      cases order.dialectFlag?.or (Keyed.get? layer "dialect") <;> rfl
    · rw [if_neg dialect, Option.or_assoc]

end Order

/--
An order with a file of settings that can be loaded, and in which the dialect is set if it is there
and no flag gives another, uses for each kind the settings that the file and the flags over it lead
to.  Each known setting has the value of its flag, or else of the file, or else the default one.
-/
theorem settingsFor_order {order : Order} {tree : Tree} (readDate : Sample.DateReader)
    {layer : Keyed Json} {kinds : List Kind}
    (loaded : fileLayer tree order.settings = .ok layer) (chosen : order.kinds = .ok kinds)
    (named : order.dialect = "" → ∀ value, Keyed.get? layer "dialect" = some value →
      value.isSet = true) :
    ∃ options, order.options tree readDate = .ok options ∧ options.kinds = kinds ∧
      ∀ kind : Kind,
        options.settingsFor tree kind = load tree kind.tag (.obj order.flags) order.settings ∧
        (∀ target, options.artifactFor builtin tree target kind =
          load tree kind.tag (.obj order.flags) order.settings >>= fun settings =>
            kind.generator settings (options.supplyFor kind) >>= fun generator =>
              generator.artifact target) ∧
        ∀ settings, options.settingsFor tree kind = .ok settings →
          ∀ name, isKnown name = true → name ≠ "custom" →
            settings.value? name = firstKnown? order.flags layer kind.tag name := by
  obtain ⟨options, made, same, overrides⟩ := order.exists_options readDate loaded chosen
  have distinct := nodup_keys_fileLayer loaded
  have settled (kind : Kind) : options.settingsFor tree kind =
      load tree kind.tag (.obj order.flags) order.settings := by
    have unnamed : fileLayer tree "" = .ok [] := rfl
    rw [load_eq_resolve loaded, Options.settingsFor, overrides]
    change load tree kind.tag (.obj (order.written layer)) "" = _
    rw [load_eq_resolve unnamed]
    exact (order.combines_written kind.tag distinct named).resolve_eq distinct
      order.isKnownOnly_flags
  refine ⟨options, made, same, fun kind => ⟨settled kind, fun target => ?_, ?_⟩⟩
  · rw [← settled kind, Options.artifactFor, Options.generatorFor]
    cases options.settingsFor tree kind with
    | error fault => rfl
    | ok settings =>
        simp only [bind, Except.bind, Makers.create_of_valueOf (valueOf_tag kind)]
        rfl
  · intro settings given name known other
    rw [settled kind, load_eq_resolve loaded] at given
    exact value?_of_resolve distinct order.isKnownOnly_flags given known other

def sampleLayer : Keyed Json :=
  [("dialect", .str "sqlite"), ("sample_rows", .int 7), ("output_format", .str "json")]

def sampleTree : Tree where
  nodes :=
    [({ parts := ["sample.json"] }, .file ((Json.obj sampleLayer).write (.indented "  ")))]

def sampleOrder : Order where
  source := {}
  table := ""
  artifacts := "samples"
  dialect := ""
  directory := ""
  settings := "sample.json"
  sampleRows := some 3
  seed := some 42
  omitsComments := true
  isVerbose := false

theorem settingsFor_order_sample :
    fileLayer sampleTree sampleOrder.settings = .ok sampleLayer ∧
      sampleOrder.kinds = .ok [.sampleData] ∧
      ∃ options settings, sampleOrder.options sampleTree unread = .ok options ∧
        options.settingsFor sampleTree .sampleData = .ok settings ∧
        load sampleTree "sample_data" (.obj sampleOrder.flags) "sample.json" = .ok settings ∧
        settings.dialect = .str "sqlite" ∧ settings.sampleRows = .int 3 ∧
        settings.sampleSeed = .int 42 ∧ settings.addComments = .bool false ∧
        settings.custom = .obj [("output_format", .str "json")] := by
  have readable : Json.IsReadable Json.maxNesting (.obj sampleLayer) := by
    refine .obj (by decide) ?_
    simp only [sampleLayer, List.forall_mem_cons]
    exact ⟨.str _, .int (by decide +kernel), .str _, by simp⟩
  have loaded : fileLayer sampleTree sampleOrder.settings = .ok sampleLayer := by
    rw [fileLayer, if_neg (by decide), loadFile_written_iff readable.isPlain rfl]
    exact ⟨by decide +kernel, rfl, readable⟩
  have chosen : sampleOrder.kinds = .ok [.sampleData] := rfl
  obtain ⟨options, made, -, used⟩ := settingsFor_order unread loaded chosen (by
    rintro - value ⟨⟩
    decide)
  obtain ⟨same, -⟩ := used .sampleData
  have resolved : load sampleTree "sample_data" (.obj sampleOrder.flags) "sample.json" = _ :=
    load_eq_resolve loaded _ _
  refine ⟨loaded, chosen, options, _, made, same.trans (resolved.trans rfl), resolved.trans rfl,
    ?_, ?_, ?_, ?_, ?_⟩
  all_goals rfl

end CommandLine

end SchemaArtifacts
