import Chip8.Machine.Keypad
import Chip8.Machine.Load
import Chip8.Console.UnknownWord
import Chip8.Image.Sheet
import Chip8.Image.File
import Chip8.Proofs.Encoding
import Chip8.Proofs.Execution
import Chip8.Proofs.CallStack
import Chip8.Proofs.Drawing
import Chip8.Proofs.History
import Chip8.Proofs.Invariant
import Chip8.Proofs.Halting
import Chip8.Proofs.Subroutine
import Chip8.Proofs.Listing
import Chip8.Proofs.Lockstep
import Chip8.Proofs.Footprint
import Chip8.Proofs.Peripherals
import Chip8.Proofs.Aliasing
import Chip8.Proofs.Effects
import Chip8.Proofs.Timers
import Chip8.Proofs.KeyWait
import Chip8.Proofs.Records
import Chip8.Proofs.Reporting
import Chip8.Proofs.Occurrences
import Chip8.Proofs.RandomStream
import Chip8.Proofs.Countdown
import Chip8.Proofs.Profiles
import Chip8.Proofs.Sound
import Chip8.Proofs.Loading
import Chip8.Proofs.Restart
import Chip8.Proofs.ProgressBar
import Chip8.Proofs.Overdrawing
import Chip8.Proofs.Logging
import Chip8.Proofs.Transfer
import Chip8.Proofs.Arithmetic
import Chip8.Proofs.Pictures
import Chip8.Proofs.Tiling
import Chip8.Proofs.Sheets
import Chip8.Proofs.Decimals
import Chip8.Proofs.WideWords
import Chip8.Proofs.Chunks
import Chip8.Proofs.Scaling
import Chip8.Proofs.BoundedStack
import Chip8.Proofs.ControlFlow
import Chip8.Proofs.Survival
import Chip8.Proofs.Digits
import Chip8.Proofs.FirstFault
import Chip8.Proofs.Torus
