namespace IdRegistry.Markup

inductive Event where
  | declared (encoding : Option (List Char))
  | start (name : String) (attributes : List (String × String))
  | close
  /-- Text between tags, without the blanks around it. It is empty when nothing but blanks or an
  entity of no characters stood there. -/
  | text (content : String)
deriving DecidableEq, Repr

end IdRegistry.Markup
