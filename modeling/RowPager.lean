import RowPager.Cursor.Interrupted
import RowPager.Header.Buffer
import RowPager.Proofs.Agreement
import RowPager.Proofs.Balance
import RowPager.Proofs.Canonical
import RowPager.Proofs.Centred
import RowPager.Proofs.Exact
import RowPager.Proofs.FillDivision
import RowPager.Proofs.Grid
import RowPager.Proofs.Packing
import RowPager.Proofs.Passes
import RowPager.Proofs.Refused
import RowPager.Proofs.Reported
import RowPager.Proofs.Rewrapped
import RowPager.Proofs.Scroll
import RowPager.Proofs.Tampered
import RowPager.Proofs.Undo
import RowPager.Window.Describe
import RowPager.Window.Handle
import RowPager.Window.Settings
