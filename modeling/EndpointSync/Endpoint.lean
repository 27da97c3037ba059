import EndpointSync.Template

/-!
# Endpoints

An endpoint is something to monitor: a name, a URL, how often to check it, and what a healthy answer
looks like. A template can set every part of it. Settings that are not known here are carried along
as they are, so that the monitor may have options that this library knows nothing of.

A known setting of the wrong type is ignored, and the endpoint keeps what it had.
-/

namespace EndpointSync

open Yaml (Mapping Tree)

structure Endpoint where
  name : String
  group : String := ""
  url : String
  interval : String
  conditions : List String := []
  dns : Mapping := []
  client : Mapping := []
  ui : Mapping := []
  /-- The host's name resolution is checked in place of the URL. -/
  guarded : Bool := false
  /-- The settings not known here, by name and in the order of the names. -/
  extra : List (String × Tree) := []
deriving Inhabited

namespace Endpoint

/-! ## Sameness -/

/-- The same settings under the same names. -/
def sameExtra : List (String × Tree) → List (String × Tree) → Bool
  | [], [] => true
  | (s, v) :: xs, (t, w) :: ys => s == t && v.same w && sameExtra xs ys
  | _, _ => false

/-- Nothing tells the endpoints apart. -/
def same (a b : Endpoint) : Bool :=
  a.name == b.name && a.group == b.group && a.url == b.url && a.interval == b.interval &&
    a.conditions == b.conditions && Mapping.same a.dns b.dns && Mapping.same a.client b.client &&
    Mapping.same a.ui b.ui && a.guarded == b.guarded && sameExtra a.extra b.extra

/-! ## Templates -/

/-- Sets a value under a name in a list in the order of names. -/
def setExtra (name : String) (value : Tree) : List (String × Tree) → List (String × Tree)
  | [] => [(name, value)]
  | (n, v) :: rest =>
    if n = name then (n, value) :: rest
    else if name < n then (name, value) :: (n, v) :: rest
    else (n, v) :: setExtra name value rest

/-- The conditions that a value stands for: one string, or the strings among some items. -/
def conditionsOf? : Tree → Option (List String)
  | .str s => some [s]
  | .seq items => some (items.filterMap Tree.str?)
  | _ => none

/-- A mapping setting under the overrides of a template. -/
def overlaid (field : Mapping) (value : Tree) : Mapping :=
  match value.map? with
  | some overrides => Mapping.overlay field overrides
  | none => field

/-- Sets one setting. An endpoint is never without a name. -/
def set (e : Endpoint) (setting : String) (value : Tree) : Endpoint :=
  match setting with
  | "name" => { e with name := (value.str?.filter (· ≠ "")).getD e.name }
  | "group" => { e with group := value.str?.getD e.group }
  | "url" => { e with url := value.str?.getD e.url }
  | "interval" => { e with interval := value.str?.getD e.interval }
  | "conditions" => { e with conditions := (conditionsOf? value).getD e.conditions }
  | "dns" => { e with dns := overlaid e.dns value }
  | "client" => { e with client := overlaid e.client value }
  | "ui" => { e with ui := overlaid e.ui value }
  | "guarded" => { e with guarded := value.bool?.getD e.guarded }
  | other => { e with extra := setExtra other value e.extra }

/-- Sets one entry of a template, if its key is a string. -/
def setEntry (e : Endpoint) (entry : Tree × Tree) : Endpoint :=
  match entry.1.str? with
  | some setting => e.set setting entry.2
  | none => e

/-- Sets every entry of a template. -/
def applyTemplate (e : Endpoint) (t : Template) : Endpoint := t.foldl setEntry e

/-! ## Writing -/

/-- An entry that is left out if it says nothing. -/
def entryUnless (empty : Bool) (name : String) (value : Tree) : Mapping :=
  if empty then [] else [(.str name, value)]

/-- The endpoint as a mapping: known settings first, without empty ones, then the others. Being
guarded is not written, since it shows in the other settings. -/
def toMapping (e : Endpoint) : Mapping :=
  [(.str "name", .str e.name)]
    ++ entryUnless (e.group == "") "group" (.str e.group)
    ++ [(.str "url", .str e.url), (.str "interval", .str e.interval)]
    ++ entryUnless e.conditions.isEmpty "conditions" (.seq (e.conditions.map .str))
    ++ entryUnless e.dns.isEmpty "dns" (.map e.dns)
    ++ entryUnless e.client.isEmpty "client" (.map e.client)
    ++ entryUnless e.ui.isEmpty "ui" (.map e.ui)
    ++ e.extra.map fun (name, value) ↦ (.str name, value)

end Endpoint

end EndpointSync
