namespace HtmlReflow

/-- What the two transformations may do. The first three concern minifying, the last expanding. -/
structure Options where
  removeComments : Bool := true
  keepConditionalComments : Bool := true
  collapseWhitespace : Bool := true
  formatRawBlocks : Bool := true
  deriving DecidableEq, Repr

end HtmlReflow
