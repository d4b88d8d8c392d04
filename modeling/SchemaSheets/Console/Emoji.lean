import SchemaSheets.Console.EmojiTable
import SchemaSheets.Text.Lowercase

/-!
# Emoji by name

On the console a name between two colons stands for an emoji: `:smile:` shows
as one character.  `-text` or `-emoji` behind the name asks for the plain or the
coloured form.  Colons around anything that is no name show as they are.
-/

namespace SchemaSheets.Emoji

def named? (name : List Char) : Option (List Char) :=
  let name := name.map Text.lowerChar
  (table.toList.splitOnP (· == '\n')).findSome? fun line =>
    let (key, shown) := line.span (· != ' ')
    if key == name then some (shown.drop 1) else none

def forms : List (List Char × Char) :=
  [("-text".toList, '\uFE0E'), ("-emoji".toList, '\uFE0F')]

def nameAndForm (code : List Char) : List Char × List Char :=
  match forms.find? fun (suffix, _) => suffix.isSuffixOf code with
  | some (suffix, form) => (code.take (code.length - suffix.length), [form])
  | none => (code, [])

def shownCode (code : List Char) : List Char :=
  let (name, form) := nameAndForm code
  match named? name with
  | some cs => cs ++ form
  | none => ':' :: code ++ [':']

def code? : List Char → Option (List Char × List Char)
  | ':' :: rest =>
    let code := rest.takeWhile fun c => c != ':' && !Text.isBlank c
    match rest.drop code.length with
    | ':' :: after => some (code, after)
    | _ => none
  | _ => none

/-- What is left behind a code is shorter than the text it starts. -/
theorem length_of_code? {cs code after : List Char} (h : code? cs = some (code, after)) :
    after.length < cs.length := by
  unfold code? at h
  split at h
  · rename_i rest
    dsimp only at h
    split at h
    · rename_i more hdrop
      obtain ⟨rfl, rfl⟩ := Prod.mk.inj (Option.some.inj h)
      have := congrArg List.length hdrop
      simp only [List.length_drop, List.length_cons] at this
      simp only [List.length_cons]
      omega
    · exact absurd h (by simp)
  · exact absurd h (by simp)

def shown (cs : List Char) : List Char :=
  match cs with
  | [] => []
  | c :: rest =>
    match h : code? (c :: rest) with
    | some (code, after) =>
      have : after.length ≤ rest.length := Nat.le_of_lt_succ (length_of_code? h)
      shownCode code ++ shown after
    | none => c :: shown rest
termination_by cs.length
decreasing_by
  all_goals simp only [List.length_cons]; omega

example : code? ":o2-text: b".toList = some ("o2-text".toList, " b".toList) := by decide +kernel

example : nameAndForm "o2-text".toList = ("o2".toList, ['\uFE0E']) := by decide +kernel

end SchemaSheets.Emoji
