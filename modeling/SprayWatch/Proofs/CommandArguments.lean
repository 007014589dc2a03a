import SprayWatch.Config
import SprayWatch.Operation
import SprayWatch.Proofs.ArgumentKeys

/-!
# Arguments of commands

For everything that is asked of the tool there is a table of the values that its arguments tell,
each under its key.  No key occurs twice in a command, the values are those of the fields that the
keys stand for, and therefore the arguments determine what is asked for.
-/

namespace SprayWatch

/-! ## Connections -/

/-- The values that a connection gives.  A user and a password that are blank are left out. -/
def Connection.values (c : Connection) : Values
  | .server => some c.server
  | .username => notBlank c.username
  | .password => notBlank c.password
  | .sourceIp => c.sourceIp
  | .replicate => c.replicate.map flag
  | .noRecover => c.noRecover.map flag
  | .throttle => c.throttle.map toString
  | .transferBufferSize => c.transferBufferSize.map toString
  | _ => none

def Connection.layout : List Key :=
  [.server, .username, .password, .sourceIp, .replicate, .noRecover, .throttle, .transferBufferSize]

theorem Connection.values_within (c : Connection) : c.values.Within layout := by
  intro k hother
  cases k <;> first | rfl | exact absurd (by decide) hother

theorem Connection.args_eq (c : Connection) : c.args = c.values.args layout := by
  simp only [layout, Values.args_cons, Values.args_nil]
  simp [args, values, Key.spell_eq, Key.text]

/-! ## Formats of records -/

theorem Encoding.name_injective : Function.Injective Encoding.name := by
  intro encoding other heq
  cases encoding <;> cases other <;> first | rfl | exact absurd heq (by decide)

theorem toString_injective : Function.Injective (toString : Nat → String) := by
  intro n m heq
  have hdigits : Nat.toDigits 10 n = Nat.toDigits 10 m := String.ofList_injective heq
  rw [← Nat.ofDigitChars_ten_toDigits (n := n), hdigits, Nat.ofDigitChars_ten_toDigits]

def SprayFormat.values (f : SprayFormat) : Values
  | .format => some f.name
  | .recordSize =>
    match f with
    | .fixed recordSize => some (toString recordSize)
    | _ => none
  | .rowPath =>
    match f with
    | .json rowPath _ => some rowPath
    | _ => none
  | .rowTag =>
    match f with
    | .xml rowTag _ _ => some rowTag
    | _ => none
  | .encoding =>
    match f with
    | .csv encoding _ _ _ _ | .xml _ encoding _ => encoding.map Encoding.name
    | _ => none
  | .maxRecordSize =>
    match f with
    | .csv _ size _ _ _ | .json _ size | .xml _ _ size => size.map toString
    | .fixed _ => none
  | .separator =>
    match f with
    | .csv _ _ separator _ _ => separator
    | _ => none
  | .terminator =>
    match f with
    | .csv _ _ _ terminator _ => terminator
    | _ => none
  | .quote =>
    match f with
    | .csv _ _ _ _ quote => quote
    | _ => none
  | _ => none

def SprayFormat.layout : List Key :=
  [.format, .recordSize, .rowPath, .rowTag, .encoding, .maxRecordSize, .separator, .terminator,
    .quote]

namespace SprayFormat

theorem values_within (f : SprayFormat) : f.values.Within layout := by
  intro k hother
  cases k <;> first | rfl | exact absurd (by decide) hother

theorem args_eq (f : SprayFormat) : f.args = f.values.args layout := by
  simp only [layout, Values.args_cons, Values.args_nil]
  cases f <;> simp [args, values, optionalArg, Key.spell_eq, Key.text]

theorem values_injective : Function.Injective values := by
  intro f g heq
  have hsame : ∀ k, f.values k = g.values k := congrFun heq
  have hnames : Function.Injective (Option.map Encoding.name) :=
    Option.map_injective Encoding.name_injective
  have hsizes : Function.Injective (Option.map (toString : Nat → String)) :=
    Option.map_injective toString_injective
  have hkind := hsame .format
  cases f with
  | csv encoding size separator terminator quote =>
      cases g with
      | csv encoding' size' separator' terminator' quote' =>
          obtain rfl : encoding = encoding' := hnames (hsame .encoding)
          obtain rfl : size = size' := hsizes (hsame .maxRecordSize)
          obtain rfl : separator = separator' := hsame .separator
          obtain rfl : terminator = terminator' := hsame .terminator
          obtain rfl : quote = quote' := hsame .quote
          rfl
      | _ => simp [values, name, kind, Kind.name] at hkind
  | fixed recordSize =>
      cases g with
      | fixed recordSize' =>
          obtain rfl : recordSize = recordSize' :=
            toString_injective (Option.some.inj (hsame .recordSize))
          rfl
      | _ => simp [values, name, kind, Kind.name] at hkind
  | json rowPath size =>
      cases g with
      | json rowPath' size' =>
          obtain rfl : rowPath = rowPath' := Option.some.inj (hsame .rowPath)
          obtain rfl : size = size' := hsizes (hsame .maxRecordSize)
          rfl
      | _ => simp [values, name, kind, Kind.name] at hkind
  | xml rowTag encoding size =>
      cases g with
      | xml rowTag' encoding' size' =>
          obtain rfl : rowTag = rowTag' := Option.some.inj (hsame .rowTag)
          obtain rfl : encoding = encoding' := hnames (hsame .encoding)
          obtain rfl : size = size' := hsizes (hsame .maxRecordSize)
          rfl
      | _ => simp [values, name, kind, Kind.name] at hkind

theorem args_injective : Function.Injective args := by
  intro f g heq
  rw [args_eq, args_eq] at heq
  exact values_injective (f.values_within.eq_of_args_eq g.values_within heq)

end SprayFormat

/-! ## Operations -/

namespace Operation

def action : Operation → String
  | .spray .. | .sprayDirectory .. => "spray"
  | .despray .. => "despray"
  | .delete _ => "remove"
  | .list _ | .poll _ => "list"

/-- The values that an operation gives.  A choice of file names that is blank is left out. -/
def values (localAddress : String) : Operation → Values
  | .spray file name cluster overwrite format => fun
    | .action => some "spray"
    | .cluster => some cluster
    | .overwrite => some (flag overwrite)
    | .noWait => some "1"
    | .sourceFile => some file.text
    | .targetName => some name
    | k => format.bind fun f => f.values k
  | .sprayDirectory dir name cluster overwrite fileNames _ => fun
    | .action => some "spray"
    | .cluster => some cluster
    | .overwrite => some (flag overwrite)
    | .noWait => some "1"
    | .sourceFile => some (dir.entry "*").text
    | .targetName => some name
    | .fileNames => notBlank fileNames
    | .noSplit => some "1"
    | _ => none
  | .despray name file ip => fun
    | .action => some "despray"
    | .sourceName => some name
    | .targetFile => some file.text
    | .targetIp => some (ip.getD localAddress)
    | .overwrite => some "1"
    | .noWait => some "1"
    | _ => none
  | .delete name => fun
    | .action => some "remove"
    | .name => some name
    | _ => none
  | .list mask | .poll mask => fun
    | .action => some "list"
    | .name => some mask
    | _ => none

def sprayLayout : List Key :=
  [.action, .cluster, .overwrite, .noWait] ++ SprayFormat.layout ++ [.sourceFile, .targetName]

def sprayDirectoryLayout : List Key :=
  [.action, .cluster, .overwrite, .noWait, .sourceFile, .targetName, .fileNames, .noSplit]

def desprayLayout : List Key :=
  [.action, .sourceName, .targetFile, .targetIp, .overwrite, .noWait]

def namedLayout : List Key := [.action, .name]

def layout : Operation → List Key
  | .spray .. => sprayLayout
  | .sprayDirectory .. => sprayDirectoryLayout
  | .despray .. => desprayLayout
  | .delete _ | .list _ | .poll _ => namedLayout

section Values

variable (localAddress : String) (op : Operation)

theorem values_action : op.values localAddress .action = some op.action := by
  cases op <;> rfl

theorem values_within : (op.values localAddress).Within op.layout := by
  intro k hother
  cases op with
  | spray file name cluster overwrite format =>
      have hother : k ∉ sprayLayout := hother
      cases k <;> first | exact absurd (by decide) hother | (cases format <;> rfl)
  | sprayDirectory dir name cluster overwrite fileNames deleteSource =>
      have hother : k ∉ sprayDirectoryLayout := hother
      cases k <;> first | rfl | exact absurd (by decide) hother
  | despray name file ip =>
      have hother : k ∉ desprayLayout := hother
      cases k <;> first | rfl | exact absurd (by decide) hother
  | _ =>
      have hother : k ∉ namedLayout := hother
      cases k <;> first | rfl | exact absurd (by decide) hother

theorem values_spray_format (file : Path) (name cluster : String) (overwrite : Bool)
    (format : Option SprayFormat) {k : Key} (hmem : k ∈ SprayFormat.layout) :
    values localAddress (.spray file name cluster overwrite format) k =
      format.bind fun f => f.values k := by
  cases k <;> first | rfl | exact absurd hmem (by decide)

/-- The arguments of a format are those of the sprays that have it. -/
theorem values_format (file : Path) (name cluster : String) (overwrite : Bool)
    (format : Option SprayFormat) :
    Values.args (values localAddress (.spray file name cluster overwrite format))
      SprayFormat.layout = (format.map SprayFormat.args).getD [] := by
  cases format with
  | none => rfl
  | some f =>
      rw [Option.map_some, Option.getD_some, f.args_eq]
      apply Values.args_congr
      intro k hmem
      exact values_spray_format localAddress file name cluster overwrite (some f) hmem

theorem plan_args (base : Command) :
    (op.plan base localAddress).command =
      base.withArgs ((op.values localAddress).args op.layout) := by
  cases op with
  | spray file name cluster overwrite format =>
      rw [layout, sprayLayout, Values.args_append, Values.args_append, values_format]
      simp only [Values.args_cons, Values.args_nil]
      simp [plan, sprayArgs, values, Key.spell_eq, Key.text, flag]
  | sprayDirectory dir name cluster overwrite fileNames deleteSource =>
      simp only [layout, sprayDirectoryLayout, Values.args_cons, Values.args_nil]
      simp [plan, sprayArgs, values, Key.spell_eq, Key.text, flag, notBlank]
  | despray name file ip =>
      simp only [layout, desprayLayout, Values.args_cons, Values.args_nil]
      simp [plan, values, Key.spell_eq, Key.text]
  | delete name =>
      simp only [layout, namedLayout, Values.args_cons, Values.args_nil]
      simp [plan, values, Key.spell_eq, Key.text]
  | list mask =>
      simp only [layout, namedLayout, Values.args_cons, Values.args_nil]
      simp [plan, values, Key.spell_eq, Key.text, Command.list, Command.arg, Command.withArgs]
  | poll name =>
      simp only [layout, namedLayout, Values.args_cons, Values.args_nil]
      simp [plan, values, Key.spell_eq, Key.text, Command.list, Command.arg, Command.withArgs]

end Values

end Operation

/-! ## Everything that is asked of the tool -/

/-- What the tool is asked: to carry out an operation, how a job is doing, to abort a job, or what
files there are. -/
inductive Errand where
  | carryOut (op : Operation) (localAddress : String)
  | status (jobId : String)
  | abort (jobId : String)
  | list (mask : String)
  deriving Repr, DecidableEq

namespace Errand

def command (base : Command) : Errand → Command
  | .carryOut op localAddress => (op.plan base localAddress).command
  | .status jobId => base.status jobId
  | .abort jobId => base.abort jobId
  | .list mask => base.list mask

def action : Errand → String
  | .carryOut op _ => op.action
  | .status _ => "status"
  | .abort _ => "abort"
  | .list _ => "list"

def values : Errand → Values
  | .carryOut op localAddress => op.values localAddress
  | .status jobId => fun
    | .action => some "status"
    | .jobId => notBlank (some jobId)
    | _ => none
  | .abort jobId => fun
    | .action => some "abort"
    | .jobId => notBlank (some jobId)
    | _ => none
  | .list mask => fun
    | .action => some "list"
    | .name => some mask
    | _ => none

def jobLayout : List Key := [.jobId, .action]

def layout : Errand → List Key
  | .carryOut op _ => op.layout
  | .status _ | .abort _ => jobLayout
  | .list _ => Operation.namedLayout

section Values

variable (errand : Errand)

theorem values_action : errand.values .action = some errand.action := by
  cases errand with
  | carryOut op localAddress => exact op.values_action localAddress
  | _ => rfl

theorem values_within : errand.values.Within errand.layout := by
  intro k hother
  cases errand with
  | carryOut op localAddress => exact op.values_within localAddress k hother
  | list mask =>
      have hother : k ∉ Operation.namedLayout := hother
      cases k <;> first | rfl | exact absurd (by decide) hother
  | _ =>
      have hother : k ∉ jobLayout := hother
      cases k <;> first | rfl | exact absurd (by decide) hother

theorem query_args (base : Command) (jobId action : String) :
    (base.query jobId).arg ("action=" ++ action) =
      base.withArgs (((notBlank (some jobId)).map fun id => "wuid=" ++ id).toList ++
        ["action=" ++ action]) := by
  cases hblank : Text.isAllBlank jobId <;>
    simp [Command.query, Command.arg, Command.withArgs, notBlank, Option.filter, hblank]

theorem command_args (base : Command) :
    errand.command base = base.withArgs (errand.values.args errand.layout) := by
  cases errand with
  | carryOut op localAddress => exact op.plan_args localAddress base
  | status jobId =>
      have hquery := query_args base jobId "status"
      simp only [layout, jobLayout, Values.args_cons, Values.args_nil]
      simpa [command, Command.status, values, Key.spell_eq, Key.text] using hquery
  | abort jobId =>
      have hquery := query_args base jobId "abort"
      simp only [layout, jobLayout, Values.args_cons, Values.args_nil]
      simpa [command, Command.abort, values, Key.spell_eq, Key.text] using hquery
  | list mask =>
      simp only [layout, Operation.namedLayout, Values.args_cons, Values.args_nil]
      simp [command, values, Key.spell_eq, Key.text, Command.list, Command.arg, Command.withArgs]

/-- No key is used twice, be it for the connection or for what is asked. -/
theorem layouts_nodup : (Connection.layout ++ errand.layout).Nodup := by
  have htable : ∀ layout ∈ [Operation.sprayLayout, Operation.sprayDirectoryLayout,
      Operation.desprayLayout, Operation.namedLayout, jobLayout],
      (Connection.layout ++ layout).Nodup := by decide
  apply htable
  cases errand with
  | carryOut op localAddress => cases op <;> simp [layout, Operation.layout]
  | _ => simp [layout]

end Values

end Errand

/-! ## What the arguments determine -/

theorem flag_injective : Function.Injective flag := by
  intro b b' heq
  cases b <;> cases b' <;> first | rfl | exact absurd heq (by decide)

namespace Path

theorem same_iff {p q : Path} : p.same q = true ↔ p.components = q.components := beq_iff_eq

theorem names_slash (text : String) :
    (⟨text ++ "/"⟩ : Path).names = (⟨text⟩ : Path).names ++ [""] := by
  have hslash : (text ++ "/").toList = text.toList ++ '/' :: [] := String.toList_append
  simp only [names, hslash]
  rw [List.splitOn_append_cons_self, List.map_append]
  rfl

/-- A slash at the end does not count. -/
theorem same_slash {text : String} (hsome : text ≠ "") :
    (⟨text ++ "/"⟩ : Path).same ⟨text⟩ = true := by
  have hlist : text.toList ≠ [] := by simpa using hsome
  have habsolute : (⟨text ++ "/"⟩ : Path).isAbsolute = (⟨text⟩ : Path).isAbsolute := by
    simp [isAbsolute, List.head?_append_of_ne_nil _ hlist]
  have hsteps : (⟨text ++ "/"⟩ : Path).steps = (⟨text⟩ : Path).steps := by
    simp [steps, names_slash]
  have hnames : (⟨text⟩ : Path).names ≠ [] := by simp [names, List.splitOn_ne_nil]
  have hhead : (⟨text ++ "/"⟩ : Path).names.head? = (⟨text⟩ : Path).names.head? := by
    rw [names_slash, List.head?_append_of_ne_nil _ hnames]
  rw [same_iff, components, components, habsolute, hsteps, hhead]

/-- What is in a directory determines it. -/
theorem same_of_entry_eq {dir dir' : Path} {n : String}
    (heq : (dir.entry n).text = (dir'.entry n).text) : dir.same dir' = true := by
  obtain ⟨text⟩ := dir
  obtain ⟨text'⟩ := dir'
  unfold entry at heq
  simp only at heq
  split at heq
  next hplain =>
    split at heq
    next hplain' =>
      rw [(String.append_left_inj _).mp heq]
      exact same_iff.mpr rfl
    next hslashed' =>
      rw [not_or] at hslashed'
      rw [(String.append_left_inj _).mp heq]
      exact same_slash hslashed'.1
  next hslashed =>
    rw [not_or] at hslashed
    split at heq
    next hplain' =>
      rw [← (String.append_left_inj _).mp heq]
      exact same_iff.mpr (same_iff.mp (same_slash hslashed.1)).symm
    next hslashed' =>
      rw [(String.append_left_inj _).mp ((String.append_left_inj _).mp heq)]
      exact same_iff.mpr rfl

end Path

namespace Operation

/-- Do two operations ask for the same, as far as the arguments tell?  They do not tell a choice of
file names that is blank from none, nor whether the directory is to be removed in the end. -/
def Alike : Operation → Operation → Prop
  | .spray file name cluster overwrite format, .spray file' name' cluster' overwrite' format' =>
    file = file' ∧ name = name' ∧ cluster = cluster' ∧ overwrite = overwrite' ∧ format = format'
  | .sprayDirectory dir name cluster overwrite fileNames _,
      .sprayDirectory dir' name' cluster' overwrite' fileNames' _ =>
    dir.same dir' = true ∧ name = name' ∧ cluster = cluster' ∧ overwrite = overwrite' ∧
      notBlank fileNames = notBlank fileNames'
  | .despray name file ip, .despray name' file' ip' => name = name' ∧ file = file' ∧ ip = ip'
  | .delete name, .delete name' => name = name'
  | .list mask, .list mask' => mask = mask'
  | .poll name, .poll name' => name = name'
  | _, _ => False

/-- The format of a spray is one of its values. -/
theorem format_eq_of_values {format format' : Option SprayFormat}
    (hsame : ∀ k ∈ SprayFormat.layout,
      (format.bind fun f => f.values k) = format'.bind fun f => f.values k) :
    format = format' := by
  have hkind := hsame .format (by decide)
  cases format with
  | none =>
      cases format' with
      | none => rfl
      | some f' => simp [SprayFormat.values] at hkind
  | some f =>
      cases format' with
      | none => simp [SprayFormat.values] at hkind
      | some f' =>
          have hvalues : f.values = f'.values := by
            funext k
            by_cases hmem : k ∈ SprayFormat.layout
            · exact hsame k hmem
            · rw [f.values_within k hmem, f'.values_within k hmem]
          rw [SprayFormat.values_injective hvalues]

/-- The values of an operation and the way to carry it out determine it, if no address of this host
is needed for it. -/
theorem alike_of_values {base : Command} {localAddress localAddress' : String} {op op' : Operation}
    (hexplicit : op.needsLocalAddress = false) (hexplicit' : op'.needsLocalAddress = false)
    (hvalues : op.values localAddress = op'.values localAddress')
    (hexecution : (op.plan base localAddress).execution =
      (op'.plan base localAddress').execution) : op.Alike op' := by
  have hsame : ∀ k, op.values localAddress k = op'.values localAddress' k := congrFun hvalues
  have haction := hsame .action
  have hnoSplit := hsame .noSplit
  cases op with
  | spray file name cluster overwrite format =>
      cases op' with
      | spray file' name' cluster' overwrite' format' =>
          have hfile : file.text = file'.text := Option.some.inj (hsame .sourceFile)
          have hname : name = name' := Option.some.inj (hsame .targetName)
          have hcluster : cluster = cluster' := Option.some.inj (hsame .cluster)
          have hoverwrite : overwrite = overwrite' :=
            flag_injective (Option.some.inj (hsame .overwrite))
          have hformat : format = format' := by
            apply format_eq_of_values
            intro k hmem
            have hk := hsame k
            rwa [values_spray_format _ _ _ _ _ _ hmem, values_spray_format _ _ _ _ _ _ hmem] at hk
          exact ⟨congrArg Path.mk hfile, hname, hcluster, hoverwrite, hformat⟩
      | sprayDirectory => cases format <;> simp [values, SprayFormat.values] at hnoSplit
      | _ => simp [values] at haction
  | sprayDirectory dir name cluster overwrite fileNames deleteSource =>
      cases op' with
      | sprayDirectory dir' name' cluster' overwrite' fileNames' deleteSource' =>
          have hdir : (dir.entry "*").text = (dir'.entry "*").text :=
            Option.some.inj (hsame .sourceFile)
          have hname : name = name' := Option.some.inj (hsame .targetName)
          have hcluster : cluster = cluster' := Option.some.inj (hsame .cluster)
          have hoverwrite : overwrite = overwrite' :=
            flag_injective (Option.some.inj (hsame .overwrite))
          exact ⟨Path.same_of_entry_eq hdir, hname, hcluster, hoverwrite, hsame .fileNames⟩
      | spray file' name' cluster' overwrite' format' =>
          cases format' <;> simp [values, SprayFormat.values] at hnoSplit
      | _ => simp [values] at haction
  | despray name file ip =>
      cases op' with
      | despray name' file' ip' =>
          have hname : name = name' := Option.some.inj (hsame .sourceName)
          have hfile : file.text = file'.text := Option.some.inj (hsame .targetFile)
          have hip : ip = ip' := by
            have hsome : ip.isSome = true := by simpa [needsLocalAddress] using hexplicit
            have hsome' : ip'.isSome = true := by simpa [needsLocalAddress] using hexplicit'
            obtain ⟨address, rfl⟩ := Option.isSome_iff_exists.mp hsome
            obtain ⟨address', rfl⟩ := Option.isSome_iff_exists.mp hsome'
            exact hsame .targetIp
          exact ⟨hname, congrArg Path.mk hfile, hip⟩
      | _ => simp [values] at haction
  | delete name =>
      cases op' with
      | delete name' => exact Option.some.inj (hsame .name)
      | _ => simp [values] at haction
  | list mask =>
      cases op' with
      | list mask' => exact Option.some.inj (hsame .name)
      | poll name' => simp [plan] at hexecution
      | _ => simp [values] at haction
  | poll name =>
      cases op' with
      | poll name' => exact Option.some.inj (hsame .name)
      | list mask' => simp [plan] at hexecution
      | _ => simp [values] at haction

end Operation

/-! ## The whole of it -/

namespace Errand

theorem base_args (executable : Path) (conn : Connection) :
    (Command.bare executable).withArgs conn.args =
      ⟨executable, conn.values.args Connection.layout⟩ := by
  rw [conn.args_eq]
  rfl

theorem entries_nodup (conn : Connection) (errand : Errand) :
    ((conn.values.entries Connection.layout ++ errand.values.entries errand.layout).map
      fun entry => entry.1.text).Nodup := by
  have hsublist : ((conn.values.entries Connection.layout ++
      errand.values.entries errand.layout).map Prod.fst).Sublist
      (Connection.layout ++ errand.layout) := by
    rw [List.map_append]
    exact Values.keys_sublist.append Values.keys_sublist
  have hnodup := (errand.layouts_nodup.sublist hsublist).map Key.text_injective
  rwa [List.map_map] at hnodup

theorem command_valueOf? (executable : Path) (conn : Connection) (errand : Errand) (k : Key) :
    (errand.command ((Command.bare executable).withArgs conn.args)).valueOf? k.text =
      (conn.values k).or (errand.values k) := by
  rw [command_args, base_args, Command.valueOf?, Command.withArgs, List.findSome?_append,
    conn.values_within.findSome?_args, errand.values_within.findSome?_args]

/-- The arguments of every command are those of its base and then its own.  They are keys and
values, with no key twice; every key has the value of its field and no other; and the arguments
determine the format and, together with the way to run the command, the operation. -/
theorem command_arguments :
    (∀ (executable : Path) (conn : Connection) (errand : Errand),
      let base := (Command.bare executable).withArgs conn.args
      let c := errand.command base
      let given := conn.values.entries Connection.layout
      let own := errand.values.entries errand.layout
      base.args = given.map (fun entry => entry.1.text ++ "=" ++ entry.2) ∧
      c = base.withArgs (own.map fun entry => entry.1.text ++ "=" ++ entry.2) ∧
      ((given ++ own).map fun entry => entry.1.text).Nodup ∧
      c.action? = some errand.action ∧
      ∀ k : Key, c.valueOf? k.text = (conn.values k).or (errand.values k)) ∧
    (∀ f g : SprayFormat, f.args = g.args → f = g) ∧
    ∀ (base : Command) (op op' : Operation) (localAddress localAddress' : String),
      op.needsLocalAddress = false → op'.needsLocalAddress = false →
      (op.plan base localAddress).command.same (op'.plan base localAddress').command = true →
      (op.plan base localAddress).execution = (op'.plan base localAddress').execution →
      op.Alike op' := by
  refine ⟨?_, ?_, ?_⟩
  · intro executable conn errand base c given own
    refine ⟨?_, errand.command_args base, errand.entries_nodup conn, ?_, ?_⟩
    · simp only [base, base_args]
      rfl
    · have haction := command_valueOf? executable conn errand .action
      have hnone : conn.values .action = none := rfl
      rw [hnone, Option.none_or, errand.values_action] at haction
      exact haction
    · intro k
      exact command_valueOf? executable conn errand k
  · intro f g heq
    exact SprayFormat.args_injective heq
  · intro base op op' localAddress localAddress' hexplicit hexplicit' hsame hexecution
    rw [Command.same, Bool.and_eq_true, beq_iff_eq, op.plan_args, op'.plan_args] at hsame
    have hargs := List.append_cancel_left hsame.2
    exact Operation.alike_of_values hexplicit hexplicit'
      ((op.values_within localAddress).eq_of_args_eq (op'.values_within localAddress') hargs)
      hexecution

/-- Values that look like arguments are taken for nothing else than what they are. -/
theorem command_arguments_disguised :
    let conn : Connection :=
      ⟨"dfuplus", "password=secret", none, some " ", none, none, none, none, none⟩
    let c := command ((Command.bare ⟨"dfuplus"⟩).withArgs conn.args)
      (.carryOut (.delete "action=list server=other") "")
    c.action? = some "remove" ∧ c.valueOf? "password" = none ∧
      c.valueOf? "server" = some "password=secret" ∧
      c.valueOf? "name" = some "action=list server=other" := by
  intro conn c
  obtain ⟨hcommand, -, -⟩ := command_arguments
  obtain ⟨-, -, -, haction, hvalues⟩ :=
    hcommand ⟨"dfuplus"⟩ conn (.carryOut (.delete "action=list server=other") "")
  have hblank : conn.values .password = none := by decide
  have hpassword := hvalues .password
  rw [hblank] at hpassword
  exact ⟨haction, hpassword, hvalues .server, hvalues .name⟩

end Errand

end SprayWatch
