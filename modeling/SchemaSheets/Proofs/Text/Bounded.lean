import SchemaSheets.Text.Blank

/-!
# Facts on the characters of a text

Whether all characters of a text have a property is decided along the text, never by going through
all the characters that there are.
-/

namespace SchemaSheets.Text

instance decidableForallMem (cs : List Char) (p : Char → Prop) [DecidablePred p] :
    Decidable (∀ c ∈ cs, p c) :=
  List.decidableBAll p cs

end SchemaSheets.Text
