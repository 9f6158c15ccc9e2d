import Transit.Report

/-!
# The program

It prints the report on the sample network and takes no arguments.
-/

/-- Print the report on the sample network. -/
def main : IO UInt32 := do
  match Transit.Report.sample with
  | .ok (.ok lines) =>
    for line in lines do
      IO.println line
    return 0
  | .ok (.error e) =>
    IO.eprintln ("Error: " ++ e.message)
    return 1
  | .error _ => return 1
