namespace MarkupForest.Text

def parts (sep : Char → Bool) : List Char → List (List Char)
  | [] => [[]]
  | c :: s =>
    if sep c then [] :: parts sep s
    else match parts sep s with
      | part :: rest => (c :: part) :: rest
      | [] => [[c]]

end MarkupForest.Text
