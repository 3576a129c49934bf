import Signpost.Text.Case

namespace Signpost

inductive RequestMethod
  | get
  | post
  | put
  | patch
  | options
  | delete
deriving DecidableEq, Repr, Inhabited

namespace RequestMethod

def all : List RequestMethod := [get, post, put, patch, options, delete]

def name : RequestMethod → String
  | get => "GET"
  | post => "POST"
  | put => "PUT"
  | patch => "PATCH"
  | options => "OPTIONS"
  | delete => "DELETE"

-- A method may be named in letters of any case.
def ofText? (text : String) : Option RequestMethod :=
  all.find? (·.name == Text.upper text)

def add (methods : List RequestMethod) (method : RequestMethod) : List RequestMethod :=
  if method ∈ methods then methods else methods ++ [method]

-- Those of `first` in their order, then the others of `second` in theirs.
def union (first second : List RequestMethod) : List RequestMethod :=
  second.foldl add first

theorem nodup_add {methods : List RequestMethod} (h : methods.Nodup)
    (method : RequestMethod) : (add methods method).Nodup := by
  unfold add
  split
  · exact h
  · refine List.nodup_append.mpr ⟨h, by simp, fun a ha b hb => ?_⟩
    rw [List.mem_singleton.mp hb]
    exact fun he => by simp_all

theorem nodup_union {first : List RequestMethod} (h : first.Nodup)
    (second : List RequestMethod) : (union first second).Nodup := by
  unfold union
  induction second generalizing first with
  | nil => exact h
  | cons method second ih => exact ih (nodup_add h method)

end RequestMethod

end Signpost
