import Mathlib.Data.List.Nodup
import SprayWatch.Command

/-!
# Keys of arguments

An argument is a key and a value with an equals sign between them.  No key contains an equals sign,
so whatever the values are, the value of a key is found among arguments, and arguments determine the
values that they tell.
-/

namespace SprayWatch

/-! ## Keys -/

/-- The keys of arguments. -/
inductive Key where
  | server | username | password | sourceIp | replicate | noRecover | throttle | transferBufferSize
  | action | cluster | overwrite | noWait
  | format | recordSize | rowPath | rowTag | encoding | maxRecordSize
  | separator | terminator | quote
  | sourceFile | targetName | fileNames | noSplit
  | sourceName | targetFile | targetIp
  | name | jobId
  deriving Repr, DecidableEq

namespace Key

def all : List Key :=
  [.server, .username, .password, .sourceIp, .replicate, .noRecover, .throttle, .transferBufferSize,
    .action, .cluster, .overwrite, .noWait, .format, .recordSize, .rowPath, .rowTag, .encoding,
    .maxRecordSize, .separator, .terminator, .quote, .sourceFile, .targetName, .fileNames, .noSplit,
    .sourceName, .targetFile, .targetIp, .name, .jobId]

def text : Key → String
  | .server => "server"
  | .username => "username"
  | .password => "password"
  | .sourceIp => "srcip"
  | .replicate => "replicate"
  | .noRecover => "norecover"
  | .throttle => "throttle"
  | .transferBufferSize => "transferbuffersize"
  | .action => "action"
  | .cluster => "dstcluster"
  | .overwrite => "overwrite"
  | .noWait => "nowait"
  | .format => "format"
  | .recordSize => "recordsize"
  | .rowPath => "rowpath"
  | .rowTag => "rowtag"
  | .encoding => "encoding"
  | .maxRecordSize => "maxrecordsize"
  | .separator => "separator"
  | .terminator => "terminator"
  | .quote => "quote"
  | .sourceFile => "srcfile"
  | .targetName => "dstname"
  | .fileNames => "PREFIX"
  | .noSplit => "nosplit"
  | .sourceName => "srcname"
  | .targetFile => "dstfile"
  | .targetIp => "dstip"
  | .name => "name"
  | .jobId => "wuid"

/-- The argument with a key and a value. -/
def spell (k : Key) (value : String) : String := k.text ++ "=" ++ value

theorem spell_eq (k : Key) : k.spell = fun value => k.text ++ "=" ++ value := rfl

theorem mem_all (k : Key) : k ∈ all := by
  cases k <;> decide

theorem text_injective : Function.Injective text := by
  intro k l heq
  have hnodup : (all.map text).Nodup := by decide +kernel
  exact List.inj_on_of_nodup_map hnodup (mem_all k) (mem_all l) heq

theorem equals_notMem_text (k : Key) : '=' ∉ k.text.toList := by
  have htable : ∀ k ∈ all, '=' ∉ k.text.toList := by decide +kernel
  exact htable k (mem_all k)

end Key

/-- A key is all that stands before the first equals sign. -/
theorem eq_of_append_equals {xs ys rest : List Char} (hxs : '=' ∉ xs) (hys : '=' ∉ ys)
    (hbegins : xs ++ ['='] <+: ys ++ '=' :: rest) : xs = ys := by
  induction xs generalizing ys with
  | nil =>
      cases ys with
      | nil => rfl
      | cons y ys =>
          rw [List.mem_cons, not_or] at hys
          obtain ⟨heq, -⟩ := List.cons_prefix_cons.mp hbegins
          exact absurd heq hys.1
  | cons x xs ih =>
      rw [List.mem_cons, not_or] at hxs
      cases ys with
      | nil =>
          obtain ⟨heq, -⟩ := List.cons_prefix_cons.mp hbegins
          exact absurd heq.symm hxs.1
      | cons y ys =>
          rw [List.mem_cons, not_or] at hys
          obtain ⟨heq, hlater⟩ := List.cons_prefix_cons.mp hbegins
          rw [heq, ih hxs.2 hys.2 hlater]

theorem Command.argValue?_spell (k l : Key) (value : String) :
    argValue? k.text (l.spell value) = if l = k then some value else none := by
  have hspelled : (l.spell value).toList = l.text.toList ++ '=' :: value.toList := by
    simp [Key.spell]
  have hfront : (k.text ++ "=").toList = k.text.toList ++ ['='] := by simp
  unfold argValue?
  simp only [hspelled, hfront, List.isPrefixOf_iff_prefix]
  by_cases heq : l = k
  · subst heq
    simp
  · have hnot : ¬ k.text.toList ++ ['='] <+: l.text.toList ++ '=' :: value.toList := by
      intro hbegins
      have hsame := eq_of_append_equals k.equals_notMem_text l.equals_notMem_text hbegins
      exact heq (Key.text_injective (String.toList_inj.mp hsame.symm))
    rw [if_neg hnot, if_neg heq]

/-! ## Arguments from values -/

/-- What is to be told by arguments: a value for every key that is to be among them. -/
abbrev Values := Key → Option String

namespace Values

/-- The entries for some keys, in order, as far as there are values for them. -/
def entries (values : Values) (layout : List Key) : List (Key × String) :=
  layout.flatMap fun k => ((values k).map fun value => (k, value)).toList

/-- The arguments for some keys. -/
def args (values : Values) (layout : List Key) : List String :=
  (values.entries layout).map fun entry => entry.1.spell entry.2

/-- There are no values but for the keys of a layout. -/
def Within (values : Values) (layout : List Key) : Prop :=
  ∀ k, k ∉ layout → values k = none

variable {values other : Values} {layout layout' : List Key}

theorem args_nil : values.args [] = [] := rfl

theorem args_cons (k : Key) (layout : List Key) :
    values.args (k :: layout) = ((values k).map k.spell).toList ++ values.args layout := by
  unfold args entries
  rw [List.flatMap_cons, List.map_append]
  cases values k <;> rfl

theorem args_append (layout layout' : List Key) :
    values.args (layout ++ layout') = values.args layout ++ values.args layout' := by
  simp [args, entries]

theorem args_congr (hsame : ∀ k ∈ layout, values k = other k) :
    values.args layout = other.args layout := by
  induction layout with
  | nil => rfl
  | cons k layout ih =>
      rw [List.forall_mem_cons] at hsame
      rw [args_cons, args_cons, hsame.1, ih hsame.2]

theorem keys_sublist : ((values.entries layout).map Prod.fst).Sublist layout := by
  induction layout with
  | nil => exact List.Sublist.refl []
  | cons k layout ih =>
      rw [entries, List.flatMap_cons, List.map_append]
      cases values k with
      | none => exact ih.cons k
      | some value => exact ih.cons_cons k

theorem findSome?_args (k : Key) (layout : List Key) :
    (values.args layout).findSome? (Command.argValue? k.text) =
      if k ∈ layout then values k else none := by
  induction layout with
  | nil => rfl
  | cons l layout ih =>
      rw [args_cons, List.findSome?_append, ih]
      by_cases heq : l = k
      · subst heq
        cases values l with
        | none => simp
        | some value => simp [Command.argValue?_spell]
      · have hmem : k ∈ l :: layout ↔ k ∈ layout := by
          rw [List.mem_cons, or_iff_right (Ne.symm heq)]
        simp only [hmem]
        cases values l with
        | none => simp
        | some value => simp [Command.argValue?_spell, heq]

theorem Within.findSome?_args (hwithin : values.Within layout) (k : Key) :
    (values.args layout).findSome? (Command.argValue? k.text) = values k := by
  rw [Values.findSome?_args]
  by_cases hmem : k ∈ layout
  · rw [if_pos hmem]
  · rw [if_neg hmem, hwithin k hmem]

/-- Arguments determine the values that they tell. -/
theorem Within.eq_of_args_eq (hwithin : values.Within layout) (hother : other.Within layout')
    (heq : values.args layout = other.args layout') : values = other := by
  funext k
  rw [← hwithin.findSome?_args k, heq, hother.findSome?_args k]

end Values

end SprayWatch
