import Signpost.Entries
import Signpost.Host
import Signpost.Route
import Signpost.Text.Cut

namespace Signpost

-- A class that is not in the table is unknown.
def Registry.ofFactories {σ : Type} (factories : List (String × Factory σ)) : Registry σ where
  resolve name := (Entries.get? factories name).getD (Hosted.pure none)

-- What a module has under a name.
inductive Attribute (σ : Type)
  | ofClass (make : Hosted σ Instance)
  | route (route : Route)
  -- What can be gone through, with the routes in it and a gap for whatever is none.
  | sequence (typeName : String) (candidates : List (Option Route))
  -- Anything else that cannot.
  | other (typeName : String)

structure Module (σ : Type) where
  isPackage : Bool
  -- What a module's body ends with: the attributes it defines, or an error.
  body : Except Error (List (String × Attribute σ))

-- Modules by their full names.
abbrev Modules (σ : Type) := List (String × Module σ)

namespace Modules

variable {σ : Type}

-- What is imported so far: the name of the innermost module and what it defines.
structure Loaded (σ : Type) where
  name : String
  isPackage : Bool
  attributes : List (String × Attribute σ)

def loadOne (modules : Modules σ) (name : String) : Except Error (Loaded σ) :=
  match Entries.get? modules name with
  | none => .error (.noModule name)
  | some module => do
      let attributes ← module.body
      pure { name, isPackage := module.isPackage, attributes }

-- A package is imported before what is in it.
def loadIn (modules : Modules σ) (parent : Loaded σ) (part : String) :
    Except Error (Loaded σ) :=
  let name := parent.name ++ "." ++ part
  if parent.isPackage then modules.loadOne name else .error (.noPackage name parent.name)

def load (modules : Modules σ) (name : String) : Except Error (Loaded σ) :=
  match (Text.split '.' name.toList).map String.ofList with
  | [] => .error .emptyModuleName
  | first :: parts =>
      if name = "" then .error .emptyModuleName
      else if first = "" then .error (.relativeModule name)
      else do
        let package ← modules.loadOne first
        parts.foldlM modules.loadIn package

-- Whether an error says that a module itself, or a package it is in, does not exist.
def isMissing (name : String) : Error → Bool
  | .noModule missing => holds missing
  | .noPackage missing _ => holds missing
  | _ => false
where
  holds (missing : String) : Bool :=
    missing != "" &&
      (name == missing || (missing ++ ".").toList.isPrefixOf name.toList)

-- An instance of the class at the end of a path. Nothing else at that place counts, but a module
-- that exists and fails is an error.
def findClass (modules : Modules σ) (path className : String) : Factory σ :=
  match modules.load path with
  | .error error => if isMissing path error then Hosted.pure none else Hosted.throw error
  | .ok found =>
      match Entries.get? found.attributes className with
      | some (.ofClass make) => Factory.ofClass make
      | _ => Hosted.pure none

-- Names may be written with a separator of their own in place of the full stop.
def registry (modules : Modules σ) (separator : String) : Registry σ where
  resolve name :=
    match Text.cutLast? '.' (Text.replace separator.toList ['.'] name.toList) with
    | none => Hosted.pure none
    | some (path, className) =>
        if path.isEmpty then Hosted.pure none
        else modules.findClass (String.ofList path) (String.ofList className)

end Modules

end Signpost
