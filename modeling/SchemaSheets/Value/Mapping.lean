import SchemaSheets.Value.Basic

/-!
# Mappings

Look-up and insertion on the entries of a mapping.  Inserting under a key that
is there replaces the value and keeps the entry's place; a new key goes to the
end.
-/

namespace SchemaSheets.Entries

def lookup? (k : Scalar) : Entries → Option Value
  | [] => none
  | (l, v) :: rest => if l.sameKey k then some v else lookup? k rest

def get? (entries : Entries) (name : String) : Option Value := lookup? (.str name) entries

def has (entries : Entries) (name : String) : Bool := (get? entries name).isSome

/-- The value under a text key, a missing entry counting as null. -/
def get (entries : Entries) (name : String) : Value := (get? entries name).getD .null

def insert (k : Scalar) (v : Value) : Entries → Entries
  | [] => [(k, v)]
  | (l, w) :: rest => if l.sameKey k then (l, v) :: rest else (l, w) :: insert k v rest

/-- The entries that result from inserting the given ones one after another. -/
def ofList (entries : List (Scalar × Value)) : Entries :=
  entries.foldl (fun acc (k, v) => insert k v acc) []

def without (names : List String) (entries : Entries) : Entries :=
  entries.filter fun (k, _) => !names.any fun n => k.sameKey (.str n)

def keys (entries : Entries) : List Scalar := entries.map (·.1)

@[simp] theorem lookup?_nil (k : Scalar) : lookup? k [] = none := rfl

@[simp] theorem get?_nil (name : String) : get? [] name = none := rfl

end SchemaSheets.Entries
