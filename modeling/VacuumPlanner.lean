import VacuumPlanner.Lanes
import VacuumPlanner.Partition
import VacuumPlanner.History
import VacuumPlanner.Sequential
import VacuumPlanner.Completion
import VacuumPlanner.Attention
import VacuumPlanner.Reports
import VacuumPlanner.Cancelling
import VacuumPlanner.Commute
import VacuumPlanner.Recovery
import VacuumPlanner.Finishing
import VacuumPlanner.Timely
import VacuumPlanner.Cleaned
import VacuumPlanner.Legacy
import VacuumPlanner.Malformed
import VacuumPlanner.Revisions
import VacuumPlanner.Staleness
import VacuumPlanner.Repeats
import VacuumPlanner.Skipping
import VacuumPlanner.NextAction
import VacuumPlanner.Generations
import VacuumPlanner.Downgrade
import VacuumPlanner.Settling
import VacuumPlanner.Repairs
import VacuumPlanner.FailClosed
import VacuumPlanner.Onboarding
import VacuumPlanner.Hearing
import VacuumPlanner.Entities
import VacuumPlanner.Lifecycle
import VacuumPlanner.Answers
import VacuumPlanner.Preference
