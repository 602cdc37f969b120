import Calculator.Tour

/-!
# The command line

Prints the tour.
-/

/-- Prints the lines of the tour. -/
def main : IO Unit :=
  Calculator.Tour.lines.forM fun line => IO.println line
